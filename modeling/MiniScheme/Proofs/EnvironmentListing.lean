import MiniScheme.Proofs.Feeding
import MiniScheme.Proofs.Soundness
import MiniScheme.Proofs.Visibility

/- The listing of the global environment in the command loop. It is put together
   from two traversals: the primitives come from all that is visible, sorted, and
   the rest from the names of the innermost frame, each looked up. The two agree
   since the global environment is one frame that binds each name once
   (`Store.Single`). The loop is a client that evaluates what it reads, so this
   stays true while sources are loaded and lines are taken (`Reachable.ordered`).
   Of such a frame the look-up finds just the bindings (`lookup_eq_some_iff_mem`),
   sorting moves them about (`Single.allBindings_perm`), and the rest are those
   that are no primitives, in the order of the frame (`Single.userBindings_eq`).
   So the two sections share out the names (`page_perm`) and show what each of
   them stands for (`Page.shows_of_single`). The columns of the primitives hold
   their names with gaps between them (`columns_spelled`). Main statement: the
   answer to `:env` in every state that the loop can come to
   (`environment_lists_globals`). -/
namespace MiniScheme

/-- The environment is a single frame, which binds each name once. -/
structure Store.Single (s : Store) (env : Env) (g : Frame) : Prop where
  scopes : s.scopes env = [g]
  frameNames : s.frameNames env = g.names
  distinct : g.names.Nodup

namespace Client

/-- What a client was given can be forgotten. -/
theorem Ordered.forget {c : Client} (h : c.Ordered) :
    Client.Ordered ⟨c.interp, c.state, []⟩ where
  forms := h.forms
  global := h.global
  hosts := h.hosts
  within := ⟨h.within.store, nofun⟩

/-- The global environment of a client is a single frame: the first one of the store, which has no
    older one around it. -/
theorem Ordered.single {c : Client} (h : c.Ordered) :
    ∃ g, c.state.store.Single c.interp.global g := by
  have some? : 0 < c.state.store.frames.size := h.within.store.known
  have first : c.state.store.frames[0]? = some c.state.store.frames[0] :=
    Array.getElem?_eq_getElem some?
  obtain ⟨distinct, -⟩ := h.within.store.frames 0 _ first
  refine ⟨c.state.store.frames[0], ?_, ?_, distinct⟩
  · have alone : c.state.store.chain ⟨some 0⟩ = [0] := by
      simp [Store.chain, Store.chainWithin, first]
    rw [h.global, Store.scopes, alone]
    simp [first]
  · rw [h.global]
    simp [Store.frameNames, Store.innermost?, first]

end Client

namespace Repl

/-! The states of the loop. -/

/-- The loop can come to the state, whatever is loaded at the start and whatever lines are taken.
    Between lines the sources may change, and what was printed may be written out. -/
inductive Reachable : Repl → Prop
  | start (loader : Loader) (options : Options) : Reachable (start loader options)
  | feed {r : Repl} (line : String) (before : Reachable r) : Reachable (r.feed line)
  | withLoader {r : Repl} (loader : Loader) (before : Reachable r) :
      Reachable (r.withLoader loader)
  | emitted {r : Repl} (before : Reachable r) :
      Reachable { r with state := { r.state with output := "", log := #[] }, errors := "" }

theorem Reachable.feedLines {r : Repl} (before : Reachable r) (input : String) :
    Reachable (r.feedLines input) :=
  List.foldlRecOn _ _ before fun _ reached _ _ => reached.feed _

theorem Reachable.feedInput {r : Repl} (before : Reachable r) (input : String) :
    Reachable (r.feedInput input) :=
  List.foldlRecOn _ _ before fun _ reached _ _ => reached.feed _

/-- The loop as a client of its interpreter. -/
def client (r : Repl) : Client := ⟨r.interp, r.state, []⟩

/-- Neither what is printed nor where sources come from matters to the store. -/
theorem ordered_of_same {a b : Repl} (h : a.client.Ordered)
    (interp : b.interp = { a.interp with loader := b.interp.loader })
    (store : b.state.store = a.state.store) : b.client.Ordered := by
  have forms : b.interp.forms = a.interp.forms := by rw [interp]
  have global : b.interp.global = a.interp.global := by rw [interp]
  have hosts : b.interp.hosts = a.interp.hosts := by rw [interp]
  refine ⟨forms.trans h.forms, global.trans h.global, fun f known => ?_, ?_, nofun⟩
  · exact h.hosts f (hosts ▸ known)
  · show Policy.ordered.Upheld b.state.store
    rw [store]
    exact h.within.store

/-- The loop evaluates what has no procedures inside, as a client may. -/
theorem ordered_evaluated {r : Repl} (h : r.client.Ordered) {expr : Value}
    (plain : expr.closures = []) :
    ({ r with state := Eval.leaves (r.interp.eval expr r.state) } : Repl).client.Ordered := by
  obtain ⟨-, after⟩ := h.perform (.eval expr) (Client.has_of_closures plain)
  have same : r.client.perform (.eval expr) =
      r.client.take (r.interp.eval expr r.state) := rfl
  rw [same] at after
  cases ended : r.interp.eval expr r.state with
  | ok v st =>
    rw [ended] at after
    exact after.forget
  | error e st =>
    rw [ended] at after
    exact after.forget

theorem ordered_loadSource {r : Repl} (h : r.client.Ordered) (location : String) :
    (r.loadSource location).client.Ordered := by
  have plain : (Value.list [.symbol "load", .string location]).closures = [] := rfl
  have after := ordered_evaluated h plain
  unfold loadSource
  cases ended : r.interp.eval (.list [.symbol "load", .string location]) r.state with
  | ok v st =>
    rw [ended] at after
    exact after
  | error e st =>
    rw [ended] at after
    exact ordered_of_same after rfl rfl

theorem ordered_evalItem {r : Repl} (h : r.client.Ordered) {item : Except ParseError Value}
    (plain : ∀ v, item = .ok v → v.closures = []) : (r.evalItem item).1.client.Ordered := by
  cases item with
  | error e => exact ordered_of_same h rfl rfl
  | ok expr =>
    have after := ordered_evaluated h (plain expr rfl)
    rw [evalItem_ok]
    cases ended : r.interp.eval expr r.state with
    | ok v st =>
      rw [ended] at after
      show (if v.isUnspecified then _ else _ : Repl).client.Ordered
      split
      · exact after
      · exact ordered_of_same after rfl rfl
    | error e st =>
      rw [ended] at after
      exact ordered_of_same after rfl rfl

theorem ordered_evalItems :
    ∀ {items : List (Except ParseError Value)} {r : Repl}, r.client.Ordered →
      (∀ v, .ok v ∈ items → v.closures = []) → (r.evalItems items).client.Ordered
  | [], _, h, _ => h
  | item :: rest, r, h, plain => by
    have after := ordered_evalItem h fun v same => plain v (same ▸ List.mem_cons_self)
    have others : ∀ v, .ok v ∈ rest → v.closures = [] :=
      fun v hv => plain v (List.mem_cons_of_mem _ hv)
    rw [evalItems]
    cases ended : r.evalItem item with
    | mk next goes =>
      rw [ended] at after
      cases goes with
      | false => exact after
      | true => exact ordered_evalItems after others

/-- What a line holds is read, so it has no procedures inside. -/
theorem ordered_feed {r : Repl} (h : r.client.Ordered) (line : String) :
    (r.feed line).client.Ordered := by
  have read : ∀ v, .ok v ∈ Reader.readAll (Text.trim line) → v.closures = [] :=
    fun v hv => Value.closures_of_readable (Reader.readable_of_readAll hv)
  simp only [feed]
  -- only a line that is neither skipped nor a command is evaluated
  split_ifs
  · exact h
  · exact ordered_of_same h rfl rfl
  · exact ordered_of_same h rfl rfl
  · exact ordered_of_same h rfl rfl
  · exact ordered_of_same h rfl rfl
  · exact ordered_evalItems h read

theorem ordered_start (loader : Loader) (options : Options) :
    (start loader options).client.Ordered := by
  have fresh : (init loader options.limit).client.Ordered :=
    Client.ordered_start loader .kept options.limit
  have loaded : (options.loads.foldl loadSource (init loader options.limit)).client.Ordered :=
    List.foldlRecOn (motive := fun r : Repl => r.client.Ordered) _ _ fresh
      fun _ h location _ => ordered_loadSource h location
  exact ordered_of_same loaded rfl rfl

/-- In every state of the loop the store is in order. -/
theorem Reachable.ordered {r : Repl} (reached : Reachable r) : r.client.Ordered := by
  induction reached with
  | start loader options => exact ordered_start loader options
  | feed line _ ih => exact ordered_feed ih line
  | withLoader loader _ ih => exact ordered_of_same ih rfl rfl
  | emitted _ ih => exact ordered_of_same ih rfl rfl

theorem Reachable.global {r : Repl} (reached : Reachable r) : r.interp.global = ⟨some 0⟩ :=
  reached.ordered.global

end Repl

/-! The bindings of a single frame. -/

namespace Store

/-- Where no name is bound twice, there is nothing to leave out. -/
theorem firstOfEach_of_nodup {bs : List (String × Value)} (distinct : (bs.map (·.1)).Nodup) :
    firstOfEach bs = bs := by
  induction bs with
  | nil => rfl
  | cons b rest ih =>
    obtain ⟨new, distinct⟩ := List.nodup_cons.mp distinct
    rw [firstOfEach, ih distinct, List.filter_eq_self.mpr]
    intro other known
    have differs : other.1 ≠ b.1 := fun same => new (List.mem_map.mpr ⟨other, known, same⟩)
    exact decide_eq_true differs

theorem lookup_eq_some_iff_mem {bs : List (String × Value)} (distinct : (bs.map (·.1)).Nodup)
    {name : String} {v : Value} : bs.lookup name = some v ↔ (name, v) ∈ bs := by
  rw [← mem_firstOfEach, firstOfEach_of_nodup distinct]

namespace Single
variable {s : Store} {env : Env} {g : Frame} (h : s.Single env g)
include h

theorem lookup_eq_some_iff {name : String} {v : Value} :
    s.lookup? env name = some v ↔ (name, v) ∈ g.bindings := by
  rw [← lookup_scopes, h.scopes, List.flatMap_singleton, lookup_eq_some_iff_mem h.distinct]

theorem allBindings_perm : (s.allBindings env).Perm g.bindings := by
  rw [allBindings, h.scopes, List.flatMap_singleton, firstOfEach_of_nodup h.distinct]
  exact List.mergeSort_perm ..

/-- Each name of the frame, with what it stands for, is its binding. -/
theorem userBindings_eq : Repl.userBindings s env = g.bindings.filter (!·.2.isPrimitive) := by
  have found : ∀ b ∈ g.bindings, (s.lookup? env b.1).map (b.1, ·) = some b := by
    intro b known
    rw [h.lookup_eq_some_iff.mpr known]
    rfl
  have all : (g.names.filterMap fun name => (s.lookup? env name).map (name, ·)) = g.bindings := by
    rw [Frame.names, List.filterMap_map]
    exact (List.filterMap_congr found).trans List.filterMap_some
  rw [Repl.userBindings, h.frameNames, all]

end Single

end Store

namespace Repl

/-! What is shown of them. -/

/-- What a listing is about: the primitives, and everything else with its value. -/
structure Page where
  primitives : List String
  others : List (String × Value)

/-- The page shows each of the names once, with what it stands for. -/
structure Page.Shows (page : Page) (names : List String) (value? : String → Option Value) :
    Prop where
  primitive_iff : ∀ name, name ∈ page.primitives ↔ ∃ p, value? name = some (.primitive p)
  other_iff : ∀ name v, (name, v) ∈ page.others ↔ value? name = some v ∧ v.isPrimitive = false
  /-- The primitives are sorted by their bytes. -/
  sorted : page.primitives.Pairwise fun a b => Text.bytes a < Text.bytes b
  /-- Everything else stands in the order in which it was bound. -/
  order : (page.others.map (·.1)).Sublist names
  once : (page.primitives ++ page.others.map (·.1)).Perm names
  total : page.primitives.length + page.others.length = names.length

/-- A space or the end of a line. -/
def IsGap (c : Char) : Prop := c = ' ' ∨ c = '\n'

/-- The text is the words in their order, with gaps in front of each and behind them. -/
inductive Spelled : List String → List Char → Prop
  | done {gap : List Char} (blank : ∀ c ∈ gap, IsGap c) : Spelled [] gap
  | word {gap text : List Char} {name : String} {names : List String}
      (blank : ∀ c ∈ gap, IsGap c) (some? : gap ≠ []) (rest : Spelled names text) :
      Spelled (name :: names) (gap ++ (name.toList ++ text))

/-- A section, which is left out if it is empty. -/
def titled (title : String) (count : Nat) (content : String) : String :=
  if count = 0 then "" else s!"{title} ({count}):\n" ++ content

/-- The text shows the page and the total. -/
def Page.Prints (page : Page) (total : Nat) (text : String) : Prop :=
  if total = 0 then text = "Environment is empty.\n"
  else ∃ table : String, Spelled page.primitives table.toList ∧
    text = s!"Environment bindings ({total} total):\n\n"
      ++ titled "Primitives" page.primitives.length (table ++ "\n")
      ++ titled "User-defined values" page.others.length
        (String.join (page.others.map fun b => s!"  {b.1} = {b.2.display}\n"))

/-- More of a gap in front of what is spelled. -/
theorem Spelled.after_gap {names : List String} {text : List Char} (h : Spelled names text)
    {pad : List Char} (blank : ∀ c ∈ pad, IsGap c) : Spelled names (pad ++ text) := by
  have wider {gap : List Char} (h : ∀ c ∈ gap, IsGap c) : ∀ c ∈ pad ++ gap, IsGap c :=
    List.forall_mem_append.mpr ⟨blank, h⟩
  cases h with
  | done blank => exact .done (wider blank)
  | word blank some? rest =>
    rw [← List.append_assoc]
    exact .word (wider blank) (List.append_ne_nil_of_right_ne_nil _ some?) rest

/-- Columns spell the names: each of them stands behind two spaces, and is filled up with spaces
    and perhaps the end of the row. -/
theorem columns_spelled (names : List String) (filled : Nat) :
    Spelled names (columns filled names).toList := by
  induction names generalizing filled with
  | nil =>
    apply Spelled.done
    unfold columns
    split <;> simp [IsGap]
  | cons name rest ih =>
    let ending := if (filled + 1) % columnCount = 0 then "\n" else ""
    let filler := List.replicate (columnWidth - name.length) ' '
    have filler_blank : ∀ c ∈ filler, IsGap c := fun c hc => .inl (List.eq_of_mem_replicate hc)
    have ending_blank : ∀ c ∈ ending.toList, IsGap c := by
      unfold ending
      split <;> simp [IsGap]
    have split : (columns filled (name :: rest)).toList =
        [' ', ' '] ++ (name.toList ++
          (filler ++ (ending.toList ++ (columns (filled + 1) rest).toList))) := by
      simp [columns, cell, ending, filler]
    rw [split]
    refine .word (by simp [IsGap]) (List.cons_ne_nil _ _) ?_
    exact ((ih (filled + 1)).after_gap ending_blank).after_gap filler_blank

theorem mem_primitiveNames {s : Store} {env : Env} {name : String} :
    name ∈ primitiveNames (s.allBindings env) ↔
      ∃ p, s.lookup? env name = some (.primitive p) := by
  unfold primitiveNames
  constructor
  · intro listed
    obtain ⟨⟨_, v⟩, known, rfl⟩ := List.mem_map.mp listed
    obtain ⟨visible, primitive⟩ := List.mem_filter.mp known
    have found := Store.mem_allBindings.mp visible
    cases v with
    | primitive p => exact ⟨p, found⟩
    | _ => cases primitive
  · rintro ⟨p, found⟩
    have visible := Store.mem_allBindings.mpr found
    exact List.mem_map.mpr ⟨(name, .primitive p), List.mem_filter.mpr ⟨visible, rfl⟩, rfl⟩

theorem sorted_primitiveNames (s : Store) (env : Env) :
    (primitiveNames (s.allBindings env)).Pairwise fun a b => Text.bytes a < Text.bytes b := by
  unfold primitiveNames
  rw [List.pairwise_map]
  exact ((Store.sorted_allBindings s env).imp Text.bytes_lt_bytes).filter _

/-- The two sections of a listing. -/
def page (s : Store) (env : Env) : Page := ⟨primitiveNames (s.allBindings env), userBindings s env⟩

/-- The sections of a single frame share its names out among them. -/
theorem page_perm {s : Store} {env : Env} {g : Frame} (h : s.Single env g) :
    ((page s env).primitives ++ (page s env).others.map (·.1)).Perm g.names := by
  -- sorting moves the primitives about, and what is no primitive is the rest of the frame
  have parted : ((s.allBindings env).filter (·.2.isPrimitive) ++
      g.bindings.filter (!·.2.isPrimitive)).Perm g.bindings :=
    ((h.allBindings_perm.filter (·.2.isPrimitive)).append_right _).trans
      (List.filter_append_perm (fun b => b.2.isPrimitive) g.bindings)
  rw [page, h.userBindings_eq, primitiveNames, ← List.map_append]
  exact parted.map _

/-- Of a single frame the two sections show each name once. -/
theorem Page.shows_of_single {s : Store} {env : Env} {g : Frame} (h : s.Single env g) :
    (page s env).Shows g.names (s.lookup? env) where
  primitive_iff _ := mem_primitiveNames
  other_iff name v := by
    rw [page, h.userBindings_eq, List.mem_filter, h.lookup_eq_some_iff]
    simp
  sorted := sorted_primitiveNames s env
  order := by
    rw [page, h.userBindings_eq]
    exact List.filter_sublist.map _
  once := page_perm h
  total := by simpa using (page_perm h).length_eq

theorem primitiveSection_eq (names : List String) :
    primitiveSection names = titled "Primitives" names.length (columns 0 names ++ "\n") := by
  cases names with
  | nil => rfl
  | cons name rest =>
    show s!"Primitives ({(name :: rest).length}):\n" ++ columns 0 (name :: rest) ++ "\n" = _
    rw [String.append_assoc]
    rfl

theorem userSection_eq (bindings : List (String × Value)) :
    userSection bindings = titled "User-defined values" bindings.length
      (String.join (bindings.map fun b => s!"  {b.1} = {b.2.display}\n")) := by
  cases bindings <;> rfl

/-- The answer to `:env` shows the two sections. -/
theorem Page.prints_environment {s : Store} {env : Env} {g : Frame} (h : s.Single env g) :
    (page s env).Prints g.names.length (environment s env) := by
  have total : (s.allBindings env).length = g.names.length := by
    rw [h.allBindings_perm.length_eq, Frame.names, List.length_map]
  have empty_iff : (s.allBindings env).isEmpty = true ↔ g.names.length = 0 := by
    rw [List.isEmpty_iff_length_eq_zero, total]
  simp only [Page.Prints, environment, empty_iff, total, primitiveSection_eq, userSection_eq]
  split
  · rfl
  · exact ⟨_, columns_spelled _ 0, rfl⟩

/-- In every state that the loop can come to, the global environment is a single frame, and the
    answer to `:env` tells how many names it has and shows each of them once: under the primitives,
    which are sorted, if it stands for a primitive, and otherwise with its value, in the order in
    which the names were bound. -/
theorem environment_lists_globals {r : Repl} (reached : Reachable r) :
    ∃ g, r.state.store.Single r.interp.global g ∧
      ∃ page : Page, page.Shows g.names (r.state.store.lookup? r.interp.global) ∧
        page.Prints g.names.length (environment r.state.store r.interp.global) ∧
        ∀ line, Text.trim line = ":env" → r.finished = false →
          r.feed line = r.print (environment r.state.store r.interp.global) := by
  obtain ⟨g, single⟩ := reached.ordered.single
  refine ⟨g, single, _, Page.shows_of_single single, Page.prints_environment single, ?_⟩
  intro line asks ready
  simp [feed, asks, ready]

/-- A new name for a primitive, whose own name is bound no more, and the name of another primitive
    for a number. -/
def renamings : List Value := [
  .list [.symbol "define", .symbol "rest", .symbol "cdr"],
  .list [.symbol "make-unbound!", .symbol "cdr"],
  .list [.symbol "define", .symbol "car", .number 1]]

/-- The loop after the renamings. -/
def renamed : Repl := (start (.memory []) .initial).feedEach renamings

/-- The new name is a primitive, its own one is not listed, and the other one has a value. -/
theorem environment_lists_globals_renamed :
    let value? := renamed.state.store.lookup? renamed.interp.global
    (∃ g, renamed.state.store.Single renamed.interp.global g ∧
      ∃ page : Page, page.Shows g.names value? ∧
        page.Prints g.names.length (environment renamed.state.store renamed.interp.global) ∧
        ∀ line, Text.trim line = ":env" → renamed.finished = false →
          renamed.feed line =
            renamed.print (environment renamed.state.store renamed.interp.global)) ∧
      value? "rest" = some (.primitive (.builtin .cdr)) ∧ value? "cdr" = none ∧
      value? "car" = some (.number 1) := by
  have reached : Reachable renamed := (Reachable.start _ _).feedLines _
  have each : ∀ v ∈ renamings, Enterable v := by
    simp only [renamings, List.forall_mem_cons]
    exact ⟨⟨rfl, by decide, nofun⟩, ⟨rfl, by decide, nofun⟩, ⟨rfl, by decide, nofun⟩,
      fun _ none => absurd none List.not_mem_nil⟩
  have fed : renamed = renamings.foldl (fun r v => (r.evalItem (.ok v)).1)
    (start (.memory []) .initial) := feedEach_eq rfl each
  refine ⟨environment_lists_globals reached, ?_⟩
  rw [reached.global, fed]
  exact ⟨rfl, rfl, rfl⟩

end Repl

end MiniScheme
