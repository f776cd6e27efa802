import MiniScheme.Proofs.ByteOrder
import MiniScheme.Session.Registry

/- The history of a registry. Whatever was asked of it, a registry holds, of all
   forms that were ever offered to it, the first one of each tag (`Holds`). A form
   that is offered under a new tag is added, and one under a known tag is refused,
   which changes nothing (`Holds.grow`, `Holds.refuse`); no other request touches
   the registry (`registry_of_invoke`). So one request keeps this (`holds_step`),
   and by induction any run of requests does (`holds_after`). The first of some
   offers is also the first of more (`firstUnder?_append_of_mem`), so what a tag
   leads to never changes. Main statement: answers, look-ups and tags after any
   history (`registry_append_only`). -/
namespace MiniScheme

/-- A computation that ends with a value ends its first part with one, too. -/
theorem Eval.of_bind_ok {α β : Type} {x : Eval α} {f : α → Eval β} {b : β} {st after : State}
    (h : (x >>= f) st = .ok b after) : ∃ a mid, x st = .ok a mid ∧ f a mid = .ok b after := by
  change EStateM.bind x f st = .ok b after at h
  unfold EStateM.bind at h
  split at h
  · next a mid first => exact ⟨a, mid, first, h⟩
  · cases h

/-- The tags of forms, in their order. -/
def tagsOf (forms : List Form) : List String := forms.map (·.tag)

/-- The first of some forms that has the tag. -/
def firstUnder? (forms : List Form) (tag : String) : Option Form := forms.find? fun f => f.tag = tag

theorem isSome_firstUnder? {forms : List Form} {tag : String} :
    (firstUnder? forms tag).isSome = true ↔ tag ∈ tagsOf forms := by
  simp [firstUnder?, tagsOf]

theorem firstUnder?_append (forms more : List Form) (tag : String) :
    firstUnder? (forms ++ more) tag = (firstUnder? forms tag).or (firstUnder? more tag) :=
  List.find?_append

/-- More forms change nothing under a tag that is known. -/
theorem firstUnder?_append_of_mem {forms : List Form} {tag : String} (known : tag ∈ tagsOf forms)
    (more : List Form) : firstUnder? (forms ++ more) tag = firstUnder? forms tag := by
  obtain ⟨form, found⟩ := Option.isSome_iff_exists.mp (isSome_firstUnder?.mpr known)
  rw [firstUnder?_append, found, Option.some_or]

theorem firstUnder?_of_not_mem {forms : List Form} {tag : String} (new : tag ∉ tagsOf forms) :
    firstUnder? forms tag = none := by
  simpa using mt isSome_firstUnder?.mp new

/-- The first form under its tag is found. -/
theorem firstUnder?_of_nodup {forms : List Form} (distinct : (tagsOf forms).Nodup) {form : Form}
    (mem : form ∈ forms) : firstUnder? forms form.tag = some form := by
  obtain ⟨before, after, rfl⟩ := List.append_of_mem mem
  have new : form.tag ∉ tagsOf before := by
    intro again
    rw [tagsOf, List.map_append, List.map_cons] at distinct
    exact (List.nodup_append.mp distinct).2.2 _ again _ List.mem_cons_self rfl
  rw [firstUnder?_append, firstUnder?_of_not_mem new, Option.none_or]
  simp [firstUnder?]

namespace Registry

/-- The registry holds, of the forms that were offered, the first one of each tag. -/
structure Holds (r : Registry) (offered : List Form) : Prop where
  found : ∀ tag, r.find? tag = firstUnder? offered tag
  distinct : (tagsOf r.forms).Nodup

namespace Holds

variable {r : Registry} {offered : List Form} {form : Form} {tag : String}

theorem contains_iff (h : r.Holds offered) : r.contains tag = true ↔ tag ∈ tagsOf offered := by
  rw [contains, h.found, isSome_firstUnder?]

theorem mem_tags_iff (h : r.Holds offered) : tag ∈ r.tags ↔ tag ∈ tagsOf offered := by
  rw [tags, List.mem_mergeSort, ← h.contains_iff, contains]
  exact isSome_firstUnder?.symm

/-- The tags go up strictly by their bytes. -/
theorem sorted_tags (h : r.Holds offered) :
    r.tags.Pairwise fun a b => Text.bytes a < Text.bytes b := by
  have distinct : ((tagsOf r.forms).map id).Nodup := by simpa using h.distinct
  exact (Text.pairwise_lt_mergeSort distinct).imp Text.bytes_lt_bytes

/-- A form under a known tag is refused, which changes nothing. -/
theorem refuse (h : r.Holds offered) (known : form.tag ∈ tagsOf offered) :
    r.Holds (offered ++ [form]) := by
  refine ⟨fun tag => ?_, h.distinct⟩
  rw [h.found]
  -- under its own tag there is a form before it, and elsewhere it is not looked at
  by_cases same : form.tag = tag
  · rw [same] at known
    exact (firstUnder?_append_of_mem known _).symm
  · have other : firstUnder? [form] tag = none := by simp [firstUnder?, same]
    rw [firstUnder?_append, other, Option.or_none]

/-- A form under a new tag is added. -/
theorem grow (h : r.Holds offered) (new : form.tag ∉ tagsOf offered) :
    Holds ⟨r.forms ++ [form]⟩ (offered ++ [form]) := by
  refine ⟨fun tag => ?_, ?_⟩
  · have found : firstUnder? r.forms tag = firstUnder? offered tag := h.found tag
    rw [firstUnder?_append, ← found, ← firstUnder?_append]
    rfl
  · have free : form.tag ∉ tagsOf r.forms := by
      rw [← isSome_firstUnder?]
      exact mt h.contains_iff.mp new
    rw [tagsOf, List.map_append, List.map_singleton, List.nodup_append]
    refine ⟨h.distinct, by simp, ?_⟩
    rintro tag there _ last rfl
    exact free (List.mem_singleton.mp last ▸ there)

end Holds

end Registry

/-- The form that a request offers. -/
def FormStep.offered? : FormStep → Option Form
  | register tag handler => some ⟨tag, handler⟩
  | lookup _ | state | invoke .. => none

namespace FormSession

/-- The session after requests. -/
def after (s : FormSession) (requests : List FormStep) : FormSession :=
  requests.foldl (fun s request => (s.step request).2) s

/-- All forms offered to a registry: those it started with and those of the requests since. -/
def offered (initial : Registry) (requests : List FormStep) : List Form :=
  initial.forms ++ requests.filterMap FormStep.offered?

section
variable {s : FormSession} {tag : String}

theorem step_register_known (known : s.registry.contains tag = true) (handler : Handler) :
    s.step (.register tag handler) = (.error (.duplicateForm tag), s) := by
  have refused : s.registry.insert tag handler = .error (.duplicateForm tag) := if_pos known
  simp only [step, perform, Registry.register, refused]
  rfl

theorem step_register_new (new : s.registry.contains tag ≠ true) (handler : Handler) :
    s.step (.register tag handler) =
      (.ok (.registered tag), { s with registry := ⟨s.registry.forms ++ [⟨tag, handler⟩]⟩ }) := by
  have added : s.registry.insert tag handler = .ok ⟨s.registry.forms ++ [⟨tag, handler⟩]⟩ :=
    if_neg new
  simp only [step, perform, Registry.register, added]
  rfl

/-- A form that is invoked leaves the registry alone, whatever it does. -/
theorem registry_of_invoke (tag : String) (args : List Recipe) (depth : Nat) :
    (s.step (.invoke tag args depth)).2.registry = s.registry := by
  cases ended : s.perform (.invoke tag args depth) ⟨s.store, "", #[]⟩ with
  | ok result st =>
    rw [step, ended]
    obtain ⟨operands, mid, -, invoked⟩ := Eval.of_bind_ok ended
    cases found : s.registry.find? tag with
    | some form =>
      simp only [found] at invoked
      obtain ⟨v, last, -, returned⟩ := Eval.of_bind_ok invoked
      cases returned
      rfl
    | none =>
      simp only [found] at invoked
      cases invoked
      rfl
  | error e st => rw [step, ended]

end

/-- One request offers its form, if it has one. -/
theorem holds_step {s : FormSession} {offers : List Form} (h : s.registry.Holds offers)
    (request : FormStep) :
    (s.step request).2.registry.Holds (offers ++ request.offered?.toList) := by
  cases request with
  | register tag handler =>
    by_cases known : s.registry.contains tag = true
    · rw [step_register_known known]
      exact h.refuse (h.contains_iff.mp known)
    · rw [step_register_new known]
      exact h.grow (mt h.contains_iff.mpr known)
  | lookup tag => rwa [FormStep.offered?, Option.toList_none, List.append_nil]
  | state => rwa [FormStep.offered?, Option.toList_none, List.append_nil]
  | invoke tag args depth =>
    rwa [registry_of_invoke, FormStep.offered?, Option.toList_none, List.append_nil]

/-- So any run of requests leaves the first form of each tag. -/
theorem holds_after (requests : List FormStep) :
    ∀ {s : FormSession} {offers : List Form}, s.registry.Holds offers →
      (s.after requests).registry.Holds (offers ++ requests.filterMap FormStep.offered?) := by
  induction requests with
  | nil =>
    intro s offers h
    rwa [List.filterMap_nil, List.append_nil]
  | cons request rest ih =>
    intro s offers h
    have later := ih (holds_step h request)
    have all : request.offered?.toList ++ rest.filterMap FormStep.offered? =
        (request :: rest).filterMap FormStep.offered? := by
      rw [List.filterMap_cons]
      cases request.offered? <;> rfl
    rw [List.append_assoc, all] at later
    exact later

/-- A registry that is empty or has the builtin forms holds just these. -/
theorem holds_of_fresh {initial : Registry} (fresh : initial = .empty ∨ initial = .builtin) :
    initial.Holds initial.forms := by
  refine ⟨fun _ => rfl, ?_⟩
  rcases fresh with rfl | rfl <;> decide

/-- A registry that starts empty or with the builtin forms, after any requests. A registration is
    refused as a duplicate exactly if the tag was there at the start or in a registration before,
    and this changes nothing; else it answers with the tag, and the tag leads to its form from then
    on, whatever is requested later. The forms of the start keep their tags. The tags are sorted
    strictly by their bytes, they are just those of the start and of the registrations, and their
    number is the size. -/
theorem registry_append_only {initial : Registry} (fresh : initial = .empty ∨ initial = .builtin)
    (history : List FormStep) :
    let s := (start initial).after history
    let known := tagsOf (offered initial history)
    (∀ tag handler,
      (tag ∈ known → s.step (.register tag handler) = (.error (.duplicateForm tag), s)) ∧
      (tag ∉ known → (s.step (.register tag handler)).1 = .ok (.registered tag) ∧
        ∀ later, ((s.step (.register tag handler)).2.after later).registry.find? tag =
          some ⟨tag, handler⟩)) ∧
    (∀ form ∈ initial.forms, s.registry.find? form.tag = some form) ∧
    s.registry.tags.Pairwise (fun a b => Text.bytes a < Text.bytes b) ∧
    (∀ tag, tag ∈ s.registry.tags ↔ tag ∈ known) ∧
    s.registry.tags.length = s.registry.size ∧
    (s.registry.isEmpty = true ↔ s.registry.tags = []) := by
  intro s known
  have h : s.registry.Holds (offered initial history) := holds_after history (holds_of_fresh fresh)
  have size : s.registry.tags.length = s.registry.size := by simp [Registry.tags, Registry.size]
  refine ⟨fun tag handler => ⟨fun old => ?_, fun new => ⟨?_, fun later => ?_⟩⟩,
    fun form first => ?_, h.sorted_tags, fun _ => h.mem_tags_iff, size, ?_⟩
  · exact step_register_known (h.contains_iff.mpr old) handler
  · rw [step_register_new (mt h.contains_iff.mp new)]
  · -- whatever is offered later stands behind this form, and all before it have other tags
    have added := holds_after later (holds_step h (.register tag handler))
    have there : tag ∈ tagsOf (offered initial history ++ [⟨tag, handler⟩]) := by simp [tagsOf]
    rw [added.found, FormStep.offered?, Option.toList_some, firstUnder?_append_of_mem there,
      firstUnder?_append, firstUnder?_of_not_mem new]
    simp [firstUnder?]
  · have there : form.tag ∈ tagsOf initial.forms := List.mem_map_of_mem first
    rw [h.found, offered, firstUnder?_append_of_mem there]
    exact firstUnder?_of_nodup (holds_of_fresh fresh).distinct first
  · rw [← List.length_eq_zero_iff, size, Registry.size, List.length_eq_zero_iff, Registry.isEmpty,
      List.isEmpty_iff]

/-- A tag of one's own and a builtin tag, both taken; a new tag, which is kept; and no other
    tags. -/
theorem registry_append_only_seven :
    let seven : Handler := fun _ _ _ _ => return .number 7
    let eight : Handler := fun _ _ _ _ => return .number 8
    let s := (start .builtin).after
      [.register "seven" seven, .invoke "seven" [] 0, .register "if" seven]
    s.step (.register "seven" eight) = (.error (.duplicateForm "seven"), s) ∧
      s.step (.register "if" eight) = (.error (.duplicateForm "if"), s) ∧
      (s.step (.register "eight" eight)).1 = .ok (.registered "eight") ∧
      (∀ later, ((s.step (.register "eight" eight)).2.after later).registry.find? "eight" =
        some ⟨"eight", eight⟩) ∧
      s.registry.find? "quote" = some ⟨"quote", Form.quote⟩ ∧
      "seven" ∈ s.registry.tags ∧ "eight" ∉ s.registry.tags := by
  intro seven eight s
  obtain ⟨answers, first, -, tags, -⟩ := registry_append_only (.inr rfl)
    [.register "seven" seven, .invoke "seven" [] 0, .register "if" seven]
  obtain ⟨registered, kept⟩ := (answers "eight" eight).2 (by decide)
  refine ⟨(answers "seven" eight).1 (by decide), (answers "if" eight).1 (by decide), registered,
    kept, ?_, ?_, ?_⟩
  · exact first ⟨"quote", Form.quote⟩ List.mem_cons_self
  · exact (tags "seven").mpr (by decide)
  · exact mt (tags "eight").mp (by decide)

end FormSession

end MiniScheme
