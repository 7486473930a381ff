import Oim.Common.Status
import Oim.Lib.Fields

/-!
# Registry paths

`pkg/oim-common/path.go`: a path is split into elements at slashes, and elements
are joined by single slashes.

* `Canonical` — the lists of elements that `SplitRegistryPath` accepts.
* `split_join`, `join_inj` — on those, splitting undoes joining, so a joined path
  stands for one list of elements only.
* `startsWith_join` — the string test that `GetValues` makes on joined paths is
  the prefix relation of the elements.
* `registry_path_normal_form` — the two functions together as a normal form of
  paths.
-/

namespace Oim

open Fields

/-- `RegistryAddress`. -/
def registryAddress : String := "address"

/-- `RegistryPCI`. -/
def registryPCI : String := "pci"

/-- `strings.FieldsFunc` for slashes. -/
def pathElements (path : String) : List String := (fields '/' path.toList).map String.ofList

/-- `SplitRegistryPath`. -/
def splitRegistryPath (path : String) : Except Status (List String) :=
  match (pathElements path).find? fun element => element = "." ∨ element = ".." with
  | some element => .error (.new (path ++ ": " ++ quote element ++ " not allowed as path element"))
  | none => .ok (pathElements path)

/-- `JoinRegistryPath`. -/
def joinRegistryPath (elements : List String) : String := "/".intercalate elements

/-- The test of `GetValues`: `key` is at or below the path `pre`. -/
def startsWith (key pre : String) : Bool :=
  pre = "" ∨ pre.toList <+: key.toList ∧
    (key.length = pre.length ∨ key.toList[pre.length]? = some '/')

/-! ## Elements -/

/-- What `SplitRegistryPath` can return. -/
def Canonical (elements : List String) : Prop :=
  ∀ e ∈ elements, e ≠ "" ∧ '/' ∉ e.toList ∧ e ≠ "." ∧ e ≠ ".."

theorem Canonical.clean {es : List String} (h : Canonical es) :
    Clean '/' (es.map String.toList) := by
  intro f hf
  obtain ⟨e, he, rfl⟩ := List.mem_map.1 hf
  obtain ⟨hne, hslash, -⟩ := h e he
  exact ⟨by simpa using hne, hslash⟩

theorem toList_join (es : List String) :
    (joinRegistryPath es).toList = join '/' (es.map String.toList) := by
  unfold joinRegistryPath join
  rw [String.toList_intercalate]
  rfl

theorem pathElements_join {es : List String} (h : Clean '/' (es.map String.toList)) :
    pathElements (joinRegistryPath es) = es := by
  unfold pathElements
  rw [toList_join, fields_join h, List.map_map]
  simp [Function.comp_def]

/-- Only the elements `.` and `..` are refused. -/
theorem split_eq_ok_iff {path : String} {es : List String} :
    splitRegistryPath path = .ok es ↔
      es = pathElements path ∧ "." ∉ pathElements path ∧ ".." ∉ pathElements path := by
  unfold splitRegistryPath
  cases hf : (pathElements path).find? fun e => e = "." ∨ e = ".." with
  | some e =>
    refine iff_of_false (fun h => nomatch h) ?_
    rintro ⟨-, hdot, hdots⟩
    have hmem := List.mem_of_find?_eq_some hf
    have hbad : e = "." ∨ e = ".." := by simpa using List.find?_some hf
    rcases hbad with rfl | rfl
    · exact hdot hmem
    · exact hdots hmem
  | none =>
    have hall := List.find?_eq_none.1 hf
    constructor
    · intro h
      exact ⟨(Except.ok.inj h).symm, fun h => hall _ h (by decide), fun h => hall _ h (by decide)⟩
    · rintro ⟨rfl, -, -⟩
      rfl

/-- An accepted path has canonical elements. -/
theorem canonical_of_split {path : String} {es : List String}
    (h : splitRegistryPath path = .ok es) : es = pathElements path ∧ Canonical es := by
  obtain ⟨rfl, hdot, hdots⟩ := split_eq_ok_iff.1 h
  refine ⟨rfl, fun e he => ?_⟩
  obtain ⟨f, hf, rfl⟩ := List.mem_map.1 he
  obtain ⟨hne, hslash⟩ := clean_fields '/' path.toList f hf
  refine ⟨by simpa using hne, by simpa using hslash, ?_, ?_⟩
  · intro h
    exact hdot (h ▸ he)
  · intro h
    exact hdots (h ▸ he)

/-- **Splitting undoes joining.** -/
theorem split_join {es : List String} (h : Canonical es) :
    splitRegistryPath (joinRegistryPath es) = .ok es := by
  rw [split_eq_ok_iff, pathElements_join h.clean]
  exact ⟨rfl, fun hdot => (h _ hdot).2.2.1 rfl, fun hdots => (h _ hdots).2.2.2 rfl⟩

/-- Joined paths are equal only if their elements are. -/
theorem join_inj {es fs : List String} (hes : Clean '/' (es.map String.toList))
    (hfs : Clean '/' (fs.map String.toList)) (h : joinRegistryPath es = joinRegistryPath fs) :
    es = fs := by
  rw [← pathElements_join hes, ← pathElements_join hfs, h]

theorem join_eq_empty_iff {es : List String} (h : Canonical es) :
    joinRegistryPath es = "" ↔ es = [] := by
  constructor
  · intro he
    exact join_inj h.clean (by simp [Clean]) (he.trans rfl)
  · rintro rfl
    rfl

/-- A slash between two paths separates their elements. -/
theorem pathElements_slash (p q : String) :
    pathElements (p ++ "/" ++ q) = pathElements p ++ pathElements q := by
  have hlist : (p ++ "/" ++ q).toList = p.toList ++ '/' :: q.toList := by
    rw [String.toList_append, String.toList_append, List.append_assoc]
    rfl
  unfold pathElements
  rw [hlist, fields_append_cons, List.map_append]

theorem join_concat {es : List String} (hes : es ≠ []) (e : String) :
    joinRegistryPath (es ++ [e]) = joinRegistryPath es ++ "/" ++ e := by
  rw [← String.toList_inj, toList_join, List.map_append, join_append (by simpa using hes) (by simp),
    ← toList_join, String.toList_append, String.toList_append, List.append_assoc]
  simp [join]

/-- **The prefix test on joined paths is the prefix relation on elements.** -/
theorem startsWith_join {es qs : List String} (hes : Canonical es) (hqs : Canonical qs) :
    startsWith (joinRegistryPath es) (joinRegistryPath qs) = true ↔ qs <+: es := by
  unfold startsWith
  rw [decide_eq_true_eq, join_eq_empty_iff hqs]
  by_cases hne : qs = []
  · simp [hne]
  · have hmap : qs.map String.toList ≠ [] := by simpa using hne
    have hstarts := join_prefix_iff hqs.clean hes.clean hmap
    rw [List.prefix_map_iff_of_injective fun _ _ h => String.toList_injective h] at hstarts
    rw [← hstarts, StartsAt, ← toList_join, ← toList_join, or_iff_right hne]
    simp [String.length_toList]

/-! ## The normal form -/

/-- The maximal slash-free pieces of a path, in order. -/
def SlashPieces (path : String) (pieces : List String) : Prop :=
  Pieces '/' path.toList (pieces.map String.toList)

/-- The paths differ in leading, trailing and repeated slashes only. -/
def SlashesApart (p q : String) : Prop := Relation.EqvGen (Slack '/') p.toList q.toList

/-- A path written in the one way that `JoinRegistryPath` has for it. -/
def normalize (path : String) : Except Status String := joinRegistryPath <$> splitRegistryPath path

theorem map_toList_inj {es fs : List String} (h : es.map String.toList = fs.map String.toList) :
    es = fs :=
  List.map_injective_iff.2 (fun _ _ he => String.toList_injective he) h

theorem existsUnique_slashPieces (path : String) : ∃! pieces, SlashPieces path pieces := by
  have hpieces := pieces_splitOnP '/' path.toList
  refine ⟨(path.toList.splitOnP (· == '/')).map String.ofList, ?_, fun pieces h => ?_⟩
  · show SlashPieces _ _
    unfold SlashPieces
    simpa [Function.comp_def] using hpieces
  · apply map_toList_inj
    rw [← Pieces.eq h]
    simp [Function.comp_def]

theorem SlashPieces.pathElements {path : String} {pieces : List String}
    (h : SlashPieces path pieces) : pathElements path = pieces.filter (· ≠ "") := by
  apply map_toList_inj
  unfold Oim.pathElements
  rw [Pieces.fields h]
  simp [Function.comp_def, List.filter_map]

theorem join_prefix_join_iff {es fs : List String} (hes : Canonical es) (hfs : Canonical fs)
    (hne : es ≠ []) :
    (joinRegistryPath fs = joinRegistryPath es ∨
      ∃ rest, joinRegistryPath fs = joinRegistryPath es ++ "/" ++ rest) ↔ es <+: fs := by
  constructor
  · rintro (h | ⟨rest, h⟩)
    · rw [join_inj hfs.clean hes.clean h]
    · refine ⟨pathElements rest, ?_⟩
      rw [← pathElements_join hfs.clean, h, pathElements_slash, pathElements_join hes.clean]
  · rintro ⟨rest, rfl⟩
    by_cases hr : rest = []
    · simp [hr]
    · refine Or.inr ⟨joinRegistryPath rest, ?_⟩
      rw [← String.toList_inj, toList_join, List.map_append,
        join_append (by simpa using hne) (by simpa using hr), ← toList_join, ← toList_join]
      simp

theorem split_fails_iff {path : String} {pieces : List String} (h : SlashPieces path pieces) :
    (∃ e, splitRegistryPath path = .error e) ↔ "." ∈ pieces ∨ ".." ∈ pieces := by
  have helem : ∀ e : String, e ≠ "" → (e ∈ pathElements path ↔ e ∈ pieces) := by
    intro e he
    rw [h.pathElements, List.mem_filter]
    simp [he]
  have hok : (∃ es, splitRegistryPath path = .ok es) ↔ "." ∉ pieces ∧ ".." ∉ pieces := by
    simp only [split_eq_ok_iff, exists_eq_left, helem "." (by decide), helem ".." (by decide)]
  rw [← not_iff_not, not_or, ← hok]
  cases splitRegistryPath path <;> simp

theorem split_of_pieces {path : String} {pieces : List String} (h : SlashPieces path pieces)
    (hdot : "." ∉ pieces) (hdots : ".." ∉ pieces) :
    splitRegistryPath path = .ok (pieces.filter (· ≠ "")) := by
  rw [split_eq_ok_iff, h.pathElements]
  refine ⟨rfl, ?_, ?_⟩
  · simp [hdot]
  · simp [hdots]

theorem join_eq_iff_slashesApart {p q : String} {es fs : List String}
    (hp : splitRegistryPath p = .ok es) (hq : splitRegistryPath q = .ok fs) :
    joinRegistryPath es = joinRegistryPath fs ↔ SlashesApart p q := by
  obtain ⟨hes, hcanon⟩ := canonical_of_split hp
  obtain ⟨hfs, hcanon'⟩ := canonical_of_split hq
  have helements : es = fs ↔ fields '/' p.toList = fields '/' q.toList := by
    rw [hes, hfs, pathElements, pathElements]
    exact (List.map_injective_iff.2 fun _ _ h => String.ofList_injective h).eq_iff
  rw [SlashesApart, eqvGen_slack_iff, ← helements]
  exact ⟨join_inj hcanon.clean hcanon'.clean, fun h => h ▸ rfl⟩

theorem normalize_idem {path n : String} (h : normalize path = .ok n) : normalize n = .ok n := by
  unfold normalize at h ⊢
  cases hs : splitRegistryPath path with
  | error e => rw [hs] at h; exact absurd h (by simp [Functor.map, Except.map])
  | ok es =>
    rw [hs] at h
    obtain rfl : joinRegistryPath es = n := Except.ok.inj h
    rw [split_join (canonical_of_split hs).2]
    rfl

/-- **Splitting and joining are a normal form of registry paths.**  A path is its
non-empty pieces, and fails for a piece `.` or `..` only; a joined path is split into
what it was joined from; accepted paths have one joined form exactly if they differ
in slashes that mean nothing; joining what was split is done once; and a joined path
is at or below another one exactly if its elements are. -/
theorem registry_path_normal_form :
    (∀ p, ∃! pieces, SlashPieces p pieces) ∧
    (∀ p pieces, SlashPieces p pieces →
      ((∃ e, splitRegistryPath p = .error e) ↔ "." ∈ pieces ∨ ".." ∈ pieces) ∧
      ("." ∉ pieces → ".." ∉ pieces →
        splitRegistryPath p = .ok (pieces.filter (· ≠ "")))) ∧
    (∀ es, Canonical es → splitRegistryPath (joinRegistryPath es) = .ok es) ∧
    (∀ p q es fs, splitRegistryPath p = .ok es → splitRegistryPath q = .ok fs →
      (joinRegistryPath es = joinRegistryPath fs ↔ SlashesApart p q)) ∧
    (∀ p n, normalize p = .ok n → normalize n = .ok n) ∧
    (∀ es fs, Canonical es → Canonical fs → es ≠ [] →
      ((joinRegistryPath fs = joinRegistryPath es ∨
        ∃ rest, joinRegistryPath fs = joinRegistryPath es ++ "/" ++ rest) ↔ es <+: fs)) :=
  ⟨existsUnique_slashPieces,
    fun _ _ h => ⟨split_fails_iff h, split_of_pieces h⟩,
    fun _ => split_join,
    fun _ _ _ _ => join_eq_iff_slashesApart,
    fun _ _ => normalize_idem,
    fun _ _ => join_prefix_join_iff⟩

end Oim
