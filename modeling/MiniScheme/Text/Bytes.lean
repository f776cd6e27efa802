/- Sizes of texts in bytes of UTF-8. -/
namespace MiniScheme.Text

/-- The length of a text in bytes of UTF-8. -/
def byteLength (text : List Char) : Nat := text.foldr (fun c bytes => c.utf8Size + bytes) 0

end MiniScheme.Text
