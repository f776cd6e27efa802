import MiniScheme.Text.Bytes
import MiniScheme.Text.Cluster.Basic

/- Lines as they were meant. A backspace in a line erases what a reader takes for
   the last character before it, and at the start of a line nothing. The size of
   what can be erased is kept in one byte, so of a cluster of 256 bytes or more
   only the remainder of its size by 256 is erased. Main statement: a line
   without backspaces is taken as it stands (`typed_of_not_mem`). -/
namespace MiniScheme.Repl

/-- The character that erases the one before it. -/
def backspace : Char := '\x08'

/-- The sizes that are told apart, in bytes. -/
def sizeModulus : Nat := 256

/-- A line that is being put together. -/
structure Draft where
  /-- The characters so far, the latest first. -/
  text : List Char
  /-- The sizes of the clusters that can be erased, the latest first. -/
  sizes : List Nat

namespace Draft

def empty : Draft := ⟨[], []⟩

/-- Drops characters of the given size in bytes from the front. -/
def dropBytes : Nat → List Char → List Char
  | _, [] => []
  | bytes, c :: rest => if bytes = 0 then c :: rest else dropBytes (bytes - c.utf8Size) rest

/-- Erases the latest cluster. -/
def erase (d : Draft) : Draft :=
  match d.sizes with
  | [] => d
  | size :: sizes => ⟨dropBytes size d.text, sizes⟩

def add (d : Draft) (cluster : List Char) : Draft :=
  ⟨cluster.reverse ++ d.text, Text.byteLength cluster % sizeModulus :: d.sizes⟩

/-- Takes the next cluster of the input. -/
def take (d : Draft) (cluster : List Char) : Draft :=
  if cluster = [backspace] then d.erase else d.add cluster

end Draft

/-- The line that a line of input stands for, its backspaces applied. -/
def typed (line : List Char) : List Char :=
  ((Text.Cluster.clusters line).foldl Draft.take .empty).text.reverse

/-- Clusters without a backspace are added one after the other. -/
theorem text_foldl_take (clusters : List (List Char)) (d : Draft)
    (h : ∀ cluster ∈ clusters, cluster ≠ [backspace]) :
    (clusters.foldl Draft.take d).text = clusters.flatten.reverse ++ d.text := by
  induction clusters generalizing d with
  | nil => rfl
  | cons cluster rest ih =>
    have first : d.take cluster = d.add cluster := if_neg (h cluster (by simp))
    have others : ∀ c ∈ rest, c ≠ [backspace] := fun c hc => h c (List.mem_cons_of_mem _ hc)
    rw [List.foldl_cons, first, ih (d.add cluster) others]
    simp [Draft.add]

/-- A line without backspaces is taken as it stands. -/
theorem typed_of_not_mem {line : List Char} (h : backspace ∉ line) : typed line = line := by
  have plain : ∀ cluster ∈ Text.Cluster.clusters line, cluster ≠ [backspace] := by
    intro cluster hc he
    apply h
    rw [← Text.Cluster.flatten_clusters line]
    exact List.mem_flatten.2 ⟨cluster, hc, by simp [he]⟩
  rw [typed, text_foldl_take _ _ plain, Text.Cluster.flatten_clusters]
  simp [Draft.empty]

/-- The lines of a text; the last one need not be ended by a line feed. -/
def lines : List Char → List (List Char)
  | [] => []
  | c :: rest =>
    if c = '\n' then [] :: lines rest
    else
      match lines rest with
      | [] => [[c]]
      | line :: more => (c :: line) :: more

end MiniScheme.Repl
