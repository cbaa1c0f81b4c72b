import CallLint.Proofs.Fix.Extraction

/-!
# New constants and the names of the module

`Reads` and `Binds` say which nodes read a name and which bind one, for every binding form of the language. The names of new
constants are read nowhere, and bound by nothing but the captures of patterns: the bindings of a module leave those out, so
that a constant may get the name of a captured variable.
-/

namespace CallLint.Tree

/-- A pattern that captures a name. -/
inductive Captures (t : Tree) (n : Text) : Prop where
  | whole (isAs : t.isA .matchAs = true) (name : t.field? .name = some (.text n))
  | star (isStar : t.isA .matchStar = true) (name : t.field? .name = some (.text n))
  | rest (isMapping : t.isA .matchMapping = true) (name : t.field? .rest = some (.text n))

/-- A node that binds a name: a name that is assigned or deleted, a definition, a parameter, an import by its local name or
else by the first part of its name, a declaration, a handler, or a pattern that captures it. -/
inductive Binds (t : Tree) (n : Text) : Prop where
  | target {c : Tree} (isName : t.isA .name = true) (context : t.field? .ctx = some c)
      (isTarget : c.isA .store = true ∨ c.isA .del = true) (id : t.field? .id = some (.text n))
  | definition (isDef : t.isA .functionDef = true ∨ t.isA .asyncFunctionDef = true ∨ t.isA .classDef = true)
      (name : t.field? .name = some (.text n))
  | parameter (isArg : t.isA .arg = true) (name : t.field? .arg = some (.text n))
  | localName (isAlias : t.isA .alias = true) (name : t.field? .asname = some (.text n))
  | imported {v : Tree} {whole : Text} (isAlias : t.isA .alias = true) (noLocal : t.field? .asname = some v)
      (absent : v.truthy = false) (name : t.field? .name = some (.text whole)) (first : Fix.beforeDot whole = n)
  | declared {names : List Tree} (isDeclaration : t.isA .globalStmt = true ∨ t.isA .nonlocalStmt = true)
      (names_eq : t.field? .names = some (.list names)) (mem : .text n ∈ names)
  | handler (isHandler : t.isA .exceptHandler = true) (name : t.field? .name = some (.text n))
  | captured (captures : t.Captures n)

end CallLint.Tree

namespace CallLint.Text

theorem toChars?_eq_some {t : Text} {cs : List Char} (h : t.toChars? = some cs) : t = ofChars cs := by
  induction t generalizing cs with
  | nil =>
    cases h
    rfl
  | cons c t ih =>
    unfold toChars? at h ih
    rw [List.mapM_cons] at h
    obtain ⟨x, hx, h⟩ := Option.bind_eq_some_iff.1 h
    obtain ⟨xs, hxs, h⟩ := Option.bind_eq_some_iff.1 h
    cases h
    cases c with
    | scalar y =>
      cases hx
      rw [ih hxs]
      rfl
    | surrogate k => cases hx

@[simp] theorem toChars?_ofChars (cs : List Char) : (ofChars cs).toChars? = some cs := by
  induction cs with
  | nil => rfl
  | cons c cs ih =>
    unfold toChars? ofChars at ih ⊢
    simp [ih, CodePoint.char?]

theorem ne_nil_of_isIdentifier {t : Text} (h : t.isIdentifier = true) : t ≠ [] := by
  rintro rfl
  cases h

/-- An identifier holds no character that can stand nowhere in one. -/
theorem not_mem_of_isIdentifier {t : Text} {c : CodePoint} (h : t.isIdentifier = true) (notStart : isIdentifierStart c = false)
    (notPart : isIdentifierPart c = false) : c ∉ t := by
  cases t with
  | nil => simp
  | cons first t =>
    simp only [isIdentifier, Bool.and_eq_true, List.all_eq_true] at h
    intro mem
    rcases List.mem_cons.1 mem with rfl | later
    · rw [notStart] at h
      exact absurd h.1 (by decide)
    · rw [h.2 _ later] at notPart
      cases notPart

theorem dot_not_mem_of_isIdentifier {t : Text} (h : t.isIdentifier = true) : CodePoint.scalar '.' ∉ t :=
  not_mem_of_isIdentifier h (by decide) (by decide)

end CallLint.Text

namespace CallLint.Fix

open CallLint.Tree (Fault bind_eq_ok field_eq_ok isA_iff)

/-- What makes the candidate for a text its name. -/
theorem constantName_eq_some {value : Text} {name : List Char} :
    constantName value = some name ↔ nameCandidate value = Text.ofChars name ∧ name.length ≤ maxNameLength ∧
      (Text.ofChars name).isIdentifier = true ∧ Source.Reserved.ofChars? name = none := by
  simp only [constantName, Option.ite_none_left_eq_some]
  constructor
  · rintro ⟨checks, h⟩
    split at h
    · cases h
    next cs hc =>
    obtain ⟨free, h⟩ := Option.ite_none_left_eq_some.1 h
    cases h
    simp only [Text.toChars?_eq_some hc] at checks ⊢
    simp_all [Text.ofChars]
  · rintro ⟨candidate, short, identifier, free⟩
    have len : (Text.ofChars name).length = name.length := List.length_map _
    simp [candidate, Text.ne_nil_of_isIdentifier identifier, len, short, identifier, free]

/-- The name of a constant is an identifier. -/
theorem isIdentifier_of_constantName {value : Text} {name : List Char} (h : constantName value = some name) :
    (Text.ofChars name).isIdentifier = true :=
  (constantName_eq_some.1 h).2.2.1

theorem beforeDot_eq_self {t : Text} (h : CodePoint.scalar '.' ∉ t) : beforeDot t = t := by
  induction t with
  | nil => rfl
  | cons c t ih =>
    have other : (c != .scalar '.') = true := by
      rw [bne_iff_ne]
      exact fun same => h (same ▸ List.mem_cons_self)
    rw [beforeDot, List.takeWhile_cons, if_pos other]
    exact congrArg (c :: ·) (ih fun mem => h (List.mem_cons_of_mem c mem))

section Loaded

theorem mem_addName {names : List Tree} {name : Tree} {s : Text} :
    .text s ∈ addName names name ↔ .text s ∈ names ∨ name = .text s := by
  unfold addName
  split
  · next found =>
    constructor
    · exact Or.inl
    · rintro (h | rfl)
      · exact h
      · obtain ⟨d, hd, same⟩ := List.any_eq_true.1 found
        exact Tree.same_text.1 same ▸ hd
  · simp [eq_comm]

/-- The names that nodes read are among those that are loaded, and so are those given. -/
theorem mem_loadedFrom {ts names names' : List Tree} (h : loadedFrom names ts = .ok names') {s : Text} :
    (.text s ∈ names → .text s ∈ names') ∧ ∀ t ∈ ts, t.Reads s → .text s ∈ names' := by
  induction ts generalizing names with
  | nil =>
    cases h
    exact ⟨fun h => h, by simp⟩
  | cons t ts ih =>
    rw [loadedFrom] at h
    split at h
    · next notName =>
      refine ⟨(ih h).1, fun u hu reads => ?_⟩
      rcases List.mem_cons.1 hu with rfl | later
      · simp [reads.isName] at notName
      · exact (ih h).2 u later reads
    obtain ⟨c, hc, h⟩ := bind_eq_ok.1 h
    split at h
    · next notLoad =>
      refine ⟨(ih h).1, fun u hu reads => ?_⟩
      rcases List.mem_cons.1 hu with rfl | later
      · obtain ⟨c', hc', load⟩ := reads.context
        rw [field_eq_ok, hc'] at hc
        cases hc
        simp [load] at notLoad
      · exact (ih h).2 u later reads
    obtain ⟨id, hid, h⟩ := bind_eq_ok.1 h
    split at h
    · cases h
    obtain ⟨kept, read⟩ := ih h
    refine ⟨fun mem => kept (mem_addName.2 (Or.inl mem)), fun u hu reads => ?_⟩
    rcases List.mem_cons.1 hu with rfl | later
    · rw [field_eq_ok, reads.id] at hid
      cases hid
      exact kept (mem_addName.2 (Or.inr rfl))
    · exact read u later reads

/-- Every name that is read in a tree is loaded. -/
theorem mem_loadedNames {tree : Tree} {names : List Tree} (h : loadedNames tree = .ok names) {a : List Nat} {u : Tree}
    (hu : tree.at? a = some u) {s : Text} (reads : u.Reads s) : .text s ∈ names := by
  obtain ⟨nodes, walk, h⟩ := bind_eq_ok.1 h
  exact (mem_loadedFrom h).2 u ((Tree.mem_of_walk walk).2 ⟨a, hu⟩) reads

end Loaded

section Introduced

variable {u : Tree} {s : Text}

theorem introduces_of_boundNames {c : Tree.NodeClass} (isA : u.isA c = true) (other : c ≠ .name) (names : List Tree)
    (h : boundNames u = .ok names) (mem : .text s ∈ names) : Introduces u s := by
  have notName : u.isA .name = false := by
    cases hn : u.isA .name with
    | false => rfl
    | true => exact absurd (Tree.isA_unique isA hn) other
  exact ⟨names, by simpa [occurrenceNames, notName] using h, mem⟩

/-- The local name of an import, if it has one, is what it introduces, up to the first dot. -/
theorem importedName_localName (name : u.field? .asname = some (.text s)) (notEmpty : s ≠ []) :
    importedName u = .ok (.text (beforeDot s)) := by
  simp [importedName, field_eq_ok.2 name, Tree.truthy_text notEmpty]

theorem importedName_first {v : Tree} (noLocal : u.field? .asname = some v) (absent : v.truthy = false)
    (name : u.field? .name = some (.text s)) : importedName u = .ok (.text (beforeDot s)) := by
  simp [importedName, field_eq_ok.2 noLocal, absent, field_eq_ok.2 name]

theorem introduces_of_single {c : Tree.NodeClass} (isA : u.isA c = true) (other : c ≠ .name)
    (h : boundNames u = .ok [.text s]) : Introduces u s :=
  introduces_of_boundNames isA other [.text s] h (by simp)

theorem introduces_declared {names : List Tree} (h : u.isA .globalStmt = true ∨ u.isA .nonlocalStmt = true)
    (names_eq : u.field? .names = some (.list names)) (mem : .text s ∈ names) : Introduces u s := by
  rcases h with h | h
  all_goals
    refine introduces_of_boundNames h (by decide) names ?_ mem
    simp [boundNames, isA_iff.1 h, field_eq_ok.2 names_eq, Tree.iterate]

/-- A node that binds a name without a dot introduces it, unless it is a pattern. -/
theorem introduces_or_captures (notEmpty : s ≠ []) (dotless : CodePoint.scalar '.' ∉ s) (binds : u.Binds s) :
    Introduces u s ∨ u.Captures s := by
  have noDot : beforeDot s = s := beforeDot_eq_self dotless
  cases binds with
  | @target c isName context isTarget id =>
    have notLoad : c.isA .load = false := by
      cases hl : c.isA .load with
      | false => rfl
      | true =>
        rcases isTarget with h | h
        · exact absurd (Tree.isA_unique h hl) (by decide)
        · exact absurd (Tree.isA_unique h hl) (by decide)
    left
    exact ⟨[.text s], by simp [occurrenceNames, isName, field_eq_ok.2 context, notLoad, field_eq_ok.2 id], by simp⟩
  | definition isDef name =>
    left
    rcases isDef with h | h | h
    all_goals exact introduces_of_single h (by decide) (by simp [boundNames, isA_iff.1 h, field_eq_ok.2 name])
  | parameter isArg name =>
    exact .inl (introduces_of_single isArg (by decide) (by simp [boundNames, isA_iff.1 isArg, field_eq_ok.2 name]))
  | localName isAlias name =>
    refine .inl (introduces_of_single isAlias (by decide) ?_)
    simp [boundNames, isA_iff.1 isAlias, importedName_localName name notEmpty, noDot]
  | imported isAlias noLocal absent name first =>
    refine .inl (introduces_of_single isAlias (by decide) ?_)
    simp [boundNames, isA_iff.1 isAlias, importedName_first noLocal absent name, first]
  | declared isDeclaration names_eq mem => exact .inl (introduces_declared isDeclaration names_eq mem)
  | handler isHandler name =>
    refine .inl (introduces_of_single isHandler (by decide) ?_)
    simp [boundNames, isA_iff.1 isHandler, field_eq_ok.2 name, Tree.truthy_text notEmpty]
  | captured captures => exact Or.inr captures

theorem introduces_of_binds (identifier : s.isIdentifier = true) (binds : u.Binds s) : Introduces u s ∨ u.Captures s :=
  introduces_or_captures (Text.ne_nil_of_isIdentifier identifier) (Text.dot_not_mem_of_isIdentifier identifier) binds

end Introduced

section Proposals

open Source

/-- The name of a new constant is read nowhere in the module, and it is bound somewhere exactly if a pattern captures it. -/
theorem extract_constants_unbound {finding : Finding} {tree : Tree} {proposal : Proposal}
    (h : extract finding tree = .ok (some proposal)) (c : List Char × Text) (mem : c ∈ proposal.constants) :
    (∀ a u, tree.at? a = some u → ¬ u.Reads (Text.ofChars c.1)) ∧
      ((∃ a u, tree.at? a = some u ∧ u.Binds (Text.ofChars c.1)) ↔
        ∃ a u, tree.at? a = some u ∧ u.Captures (Text.ofChars c.1)) := by
  obtain ⟨call, scope, changed, derives⟩ := extract_eq_some h
  obtain ⟨bindings_eq, ⟨loaded, loaded_eq, reserved_eq⟩, -⟩ := callScope_eq_some derives.scope_eq
  obtain ⟨fresh, -⟩ := extractCall_eq_some derives.changed_eq
  have unused := fresh.not_reserved mem
  rw [reserved_eq, List.mem_append, not_or] at unused
  refine ⟨fun a u hu reads => unused.2 (mem_loadedNames loaded_eq hu reads), ?_, ?_⟩
  · rintro ⟨a, u, hu, binds⟩
    have identifier := isIdentifier_of_constantName (fresh.derived c mem)
    rcases introduces_of_binds identifier binds with introduces | captures
    · exact absurd (Bindings.binds_text.1 (moduleBindings_binds bindings_eq hu introduces)) unused.1
    · exact ⟨a, u, hu, captures⟩
  · rintro ⟨a, u, hu, captures⟩
    exact ⟨a, u, hu, .captured captures⟩

/-- The module `match x:`, `case ADMIN:`, `a.b('admin')`. -/
def captureModule : List Char := "match x:\n    case ADMIN:\n        a.b('admin')\n".toList

/-- The finding for the call in it. -/
def captureFinding : Finding := Rule.literalStrings.finding (.ofInts 3 9 3 12)

/-- There is a proposal for it, and a pattern in the module captures the name of a new constant. -/
theorem captureModule_extract :
    ∃ tree proposal c u, readTree .module captureModule = .ok tree ∧ extract captureFinding tree = .ok (some proposal) ∧
      c ∈ proposal.constants ∧ tree.at? [0, 1, 0] = some u ∧ u.Captures (Text.ofChars c.1) := by
  have run : ((readTree .module captureModule).toOption.any fun tree =>
      (extract captureFinding tree).toOption.any fun proposal? => proposal?.any fun proposal =>
        (tree.at? [0, 1, 0]).any fun u =>
          u.isA .matchAs && proposal.constants.any fun c => (u.fieldD .name).same (.text (Text.ofChars c.1))) = true := by
    decide +kernel
  obtain ⟨tree, read, run⟩ := Tree.any_toOption.1 run
  obtain ⟨proposal?, proposed, run⟩ := Tree.any_toOption.1 run
  simp only [Option.any_eq_true, Bool.and_eq_true, List.any_eq_true, Tree.same_text] at run
  obtain ⟨proposal, rfl, u, at_u, isAs, c, hc, name⟩ := run
  exact ⟨tree, proposal, c, u, read, proposed, hc, at_u, .whole isAs (Tree.field?_of_fieldD name nofun)⟩

theorem extract_constants_unbound_capture :
    ∃ tree proposal c, extract captureFinding tree = .ok (some proposal) ∧ c ∈ proposal.constants ∧
      (∀ a u, tree.at? a = some u → ¬ u.Reads (Text.ofChars c.1)) ∧
      ((∃ a u, tree.at? a = some u ∧ u.Binds (Text.ofChars c.1)) ↔
        ∃ a u, tree.at? a = some u ∧ u.Captures (Text.ofChars c.1)) := by
  obtain ⟨tree, proposal, c, -, -, proposed, mem, -⟩ := captureModule_extract
  exact ⟨tree, proposal, c, proposed, mem, extract_constants_unbound proposed c mem⟩

/-- A new constant may get a name that the module binds. -/
theorem extract_constant_captured :
    ∃ tree proposal, readTree .module captureModule = .ok tree ∧ extract captureFinding tree = .ok (some proposal) ∧
      ∃ c ∈ proposal.constants, ∃ a u, tree.at? a = some u ∧ u.Binds (Text.ofChars c.1) := by
  obtain ⟨tree, proposal, c, u, read, proposed, mem, at_u, captures⟩ := captureModule_extract
  exact ⟨tree, proposal, read, proposed, c, mem, _, u, at_u, .captured captures⟩

end Proposals

end CallLint.Fix
