import Oim.Common.Path
import Oim.Csi.DeviceNumber
import Oim.Csi.Mounter

/-!
# Device nodes

The end of `remoteSPDK.createDevice` (`pkg/oim-csi-driver/remote.go`): a block special file is made
in a new directory under `/dev`, and the caller gets a function that removes it again.

* `DevTree`, `DevTree.server` — the files under `/dev`, and what the code asks of them.
* `makeNode` — the code.
* `runs_makeNode` — all that it leaves is removed by its caller, and it succeeds only if the name of
  the device is a single element, not if it is that of a partition (`sda/sda1`).
* `run_makeNode` — it does succeed if there is a place for the directory.
-/

namespace Oim.Csi

open Interaction

/-! ## Paths -/

/-- `filepath.Clean` on the elements of an absolute path. -/
def cleanElements (es : List String) : List String :=
  es.foldl (fun path e =>
    if e = "." then path else if e = ".." then path.dropLast else path ++ [e]) []

/-- `filepath.Join` of an absolute path and another one. -/
def filepathJoin (dir name : String) : String :=
  "/" ++ joinRegistryPath (cleanElements (pathElements (dir ++ "/" ++ name)))

/-! ## Device files -/

/-- What there can be at a path. -/
inductive DevEntry where
  | directory
  | blockDevice (major minor : UInt32)
  | other
  deriving DecidableEq

/-- The files, by the elements of their paths.  A file is in a directory. -/
@[ext]
structure DevTree where
  entry : List String → Option DevEntry
  parent : ∀ path name, entry (path ++ [name]) ≠ none → entry path = some .directory

namespace DevTree

/-- A new file, where there is a place for it. -/
def insert (tree : DevTree) (path : List String) (e : DevEntry) (hfree : tree.entry path = none)
    (hparent : tree.entry path.dropLast = some .directory) : DevTree where
  entry p := if p = path then some e else tree.entry p
  parent := by
    intro p name hp
    have hdir : tree.entry p = some .directory := by
      split_ifs at hp with h
      · rwa [← h, List.dropLast_concat] at hparent
      · exact tree.parent p name hp
    have hne : p ≠ path := by
      rintro rfl
      exact absurd (hfree.symm.trans hdir) (by simp)
    rw [if_neg hne, hdir]

/-- A file is removed, and everything in it. -/
def remove (tree : DevTree) (path : List String) : DevTree where
  entry p := if path <+: p then none else tree.entry p
  parent := by
    intro p name hp
    split_ifs at hp with h
    · exact absurd rfl hp
    rw [if_neg fun hpre => h (hpre.trans (List.prefix_append p [name]))]
    exact tree.parent p name hp

/-- `mkdir` and `mknod`: the file is made, or there is an error number. -/
def make (tree : DevTree) (path : List String) (e : DevEntry) : Except Errno DevTree :=
  if hfree : tree.entry path = none then
    if hparent : tree.entry path.dropLast = some .directory then
      .ok (tree.insert path e hfree hparent)
    -- `ENOTDIR`, unless there is nothing at all
    else .error (if tree.entry path.dropLast = none then .enoent else .other 20)
  else .error .eexist

/-- The texts of these errors. -/
def makeError : Errno → String
  | .eexist => "file exists"
  | .enoent => "no such file or directory"
  | _ => "not a directory"

/-- What the code asks for. -/
inductive Request where
  /-- `ioutil.TempDir`. -/
  | tempDir (dir base : String)
  /-- `syscall.Mknod`. -/
  | mknod (path : String) (mode : UInt32) (dev : Int64)
  /-- `os.RemoveAll`. -/
  | removeAll (path : String)

def Request.Reply : Request → Type
  | .tempDir _ _ => Except String String
  | .mknod _ _ _ => Except OsError Unit
  | .removeAll _ => Except String Unit

/-- The number that `ioutil.TempDir` appends to a name; it may have tried others before. -/
structure Suffix where
  pick : DevTree → String → List Char
  ne_nil : ∀ tree base, pick tree base ≠ []
  isDigit : ∀ tree base, ∀ c ∈ pick tree base, c.isDigit = true

/-- The name of a temporary directory. -/
def Suffix.name (suffix : Suffix) (tree : DevTree) (dir base : String) : String :=
  filepathJoin dir (base ++ String.ofList (suffix.pick tree base))

/-- `syscall.S_IFBLK`. -/
def sIFBLK : UInt32 := 0x6000

/-- What the kernel makes of the arguments of `mknod`.  Of the number it takes 32 bits. -/
def nodeOf (mode : UInt32) (dev : Int64) : DevEntry :=
  if mode &&& 0xf000 = sIFBLK then
    .blockDevice (newDecodeDev dev.toUInt64.toUInt32).1 (newDecodeDev dev.toUInt64.toUInt32).2
  else .other

/-- What each request does when nothing fails. -/
def exec (suffix : Suffix) : (q : Request) → DevTree → q.Reply × DevTree
  | .tempDir dir base, tree =>
    let name := suffix.name tree dir base
    match tree.make (pathElements name) .directory with
    | .error errno => (.error ("mkdir " ++ name ++ ": " ++ makeError errno), tree)
    | .ok tree' => (.ok name, tree')
  | .mknod path mode dev, tree =>
    match tree.make (pathElements path) (nodeOf mode dev) with
    | .error errno => (.error ⟨errno, makeError errno⟩, tree)
    | .ok tree' => (.ok (), tree')
  | .removeAll path, tree => (.ok (), tree.remove (pathElements path))

/-- The answers that stand for a failure without effect.  That there is something at a path is no
failure. -/
def Fault : (q : Request) → q.Reply → Prop
  | .tempDir _ _, r => ∃ e, r = (Except.error e : Except String String)
  | .mknod _ _ _, r => ∃ e, r = (Except.error e : Except OsError Unit) ∧ e.isExist = false
  | .removeAll _, r => ∃ e, r = (Except.error e : Except String Unit)

def server (suffix : Suffix) : Server Request Request.Reply DevTree where
  exec := exec suffix
  Fault := Fault

end DevTree

/-! ## The code -/

/-- What `createDevice` returns.  `cleanup` is the directory that the function of this name
removes. -/
inductive Created where
  | waiting
  | panic
  | failed (e : Status) (cleanup : Option String)
  | device (devNode cleanup : String)

namespace Remote

/-- The node, once there is a directory for it. -/
def makeNodeIn (tmpDir dev : String) (major minor : ℕ) :
    Prog DevTree.Request DevTree.Request.Reply Created :=
  let devNode := filepathJoin tmpDir dev
  -- the mode is `syscall.S_IFBLK|0666`
  .call (.mknod devNode (DevTree.sIFBLK ||| 0x1b6)
      (makedev (Int64.ofNat major) (Int64.ofNat minor))) fun
    | .error err =>
      if err.isExist = false then .ret (.failed (.wrap err.text "mknod") (some tmpDir))
      else .ret (.device devNode tmpDir)
    | .ok () => .ret (.device devNode tmpDir)

/-- The end of `createDevice`. -/
def makeNode (dev : String) (major minor : ℕ) :
    Prog DevTree.Request DevTree.Request.Reply Created :=
  .call (.tempDir "/dev" dev) fun
    | .error err => .ret (.failed (.wrap err "temp dir") none)
    | .ok tmpDir => makeNodeIn tmpDir dev major minor

end Remote

/-! ## Names -/

theorem cleanElements_concat (es : List String) (e : String) : cleanElements (es ++ [e]) =
    if e = "." then cleanElements es
    else if e = ".." then (cleanElements es).dropLast else cleanElements es ++ [e] := by
  simp [cleanElements]

theorem cleanElements_of_canonical {es : List String} (h : Canonical es) :
    cleanElements es = es := by
  induction es using List.reverseRecOn with
  | nil => rfl
  | append_singleton es e ih =>
    obtain ⟨-, -, hdot, hdots⟩ := h e (by simp)
    rw [cleanElements_concat, if_neg hdot, if_neg hdots,
      ih fun e he => h e (List.mem_append_left _ he)]

theorem pathElements_root (path : String) : pathElements ("/" ++ path) = pathElements path := by
  have hslash := pathElements_slash "" path
  have hnil : pathElements "" = [] := rfl
  rwa [String.empty_append, hnil, List.nil_append] at hslash

/-- Joining paths joins their elements. -/
theorem pathElements_filepathJoin {dir name : String}
    (h : Canonical (pathElements dir ++ pathElements name)) :
    pathElements (filepathJoin dir name) = pathElements dir ++ pathElements name := by
  rw [filepathJoin, pathElements_root, pathElements_slash, cleanElements_of_canonical h,
    pathElements_join h.clean]

theorem canonical_append {es fs : List String} (hes : Canonical es) (hfs : Canonical fs) :
    Canonical (es ++ fs) := fun e he => (List.mem_append.1 he).elim (hes e) (hfs e)

/-- A name with a number behind it is one as well. -/
theorem canonical_number {name : String} (h : Canonical [name]) {ds : List Char} (hne : ds ≠ [])
    (hds : ∀ c ∈ ds, c.isDigit = true) : Canonical [name ++ String.ofList ds] := by
  obtain ⟨hname, hslash, -⟩ := h name (List.mem_singleton_self name)
  obtain ⟨d, hd⟩ := List.exists_mem_of_ne_nil ds hne
  have hmem : d ∈ (name ++ String.ofList ds).toList := by simp [hd]
  -- there is a digit in it
  have hdigit : ∀ e : String, (∀ c ∈ e.toList, c.isDigit = false) →
      name ++ String.ofList ds ≠ e := by
    rintro e he rfl
    exact absurd (hds d hd) (by simp [he d hmem])
  intro e he
  obtain rfl := List.mem_singleton.1 he
  refine ⟨hdigit "" (by simp), ?_, hdigit "." (by simp), hdigit ".." (by simp)⟩
  intro hmem'
  rw [String.toList_append, String.toList_ofList] at hmem'
  rcases List.mem_append.1 hmem' with hin | hin
  · exact hslash hin
  · exact absurd (hds '/' hin) (by decide)

theorem join_append_number (init : List String) (name number : String) :
    joinRegistryPath (init ++ [name]) ++ number = joinRegistryPath (init ++ [name ++ number]) := by
  by_cases hinit : init = []
  · simp [hinit, joinRegistryPath]
  · rw [join_concat hinit, join_concat hinit, String.append_assoc]

/-- The elements of the path of a temporary directory. -/
theorem pathElements_tempDir (suffix : DevTree.Suffix) (tree : DevTree) {init : List String}
    {name : String} (h : Canonical (init ++ [name])) : ∃ number,
      Canonical ("dev" :: init ++ [number]) ∧
      pathElements (suffix.name tree "/dev" (joinRegistryPath (init ++ [name]))) =
        "dev" :: init ++ [number] := by
  have hinit : Canonical init := fun e he => h e (List.mem_append_left _ he)
  have hnumber := canonical_number (fun e he => h e (List.mem_append_right _ he))
    (suffix.ne_nil tree (joinRegistryPath (init ++ [name])))
    (suffix.isDigit tree (joinRegistryPath (init ++ [name])))
  have hroot : Canonical ["dev"] := by
    intro e he
    obtain rfl := List.mem_singleton.1 he
    simp
  have hdev : pathElements "/dev" = ["dev"] :=
    (pathElements_root "dev").trans (pathElements_join hroot.clean)
  have hbelow := canonical_append hinit hnumber
  have hall := canonical_append hroot hbelow
  refine ⟨_, by simpa using hall, ?_⟩
  have helements := pathElements_join hbelow.clean
  rw [DevTree.Suffix.name, join_append_number, pathElements_filepathJoin, hdev, helements]
  · simp
  · rwa [hdev, helements]

/-- The elements of the path of a node. -/
theorem pathElements_node {tmpDir name : String} {init : List String}
    (htmp : Canonical (pathElements tmpDir)) (h : Canonical (init ++ [name])) :
    pathElements (filepathJoin tmpDir (joinRegistryPath (init ++ [name]))) =
      pathElements tmpDir ++ init ++ [name] := by
  have helements := pathElements_join h.clean
  rw [pathElements_filepathJoin (by rw [helements]; exact canonical_append htmp h), helements,
    List.append_assoc]

/-! ## What the requests do -/

namespace DevTree

variable {suffix : Suffix} {tree tree' : DevTree} {path : List String}

theorem make_eq_ok {e : DevEntry} (h : tree.make path e = .ok tree') :
    tree.entry path = none ∧ tree.entry path.dropLast = some .directory ∧
      ∀ p, tree'.entry p = if p = path then some e else tree.entry p := by
  unfold make at h
  split_ifs at h with hfree hparent
  obtain rfl := Except.ok.inj h
  exact ⟨hfree, hparent, fun p => rfl⟩

theorem make_of_free (e : DevEntry) (hfree : tree.entry path = none)
    (hparent : tree.entry path.dropLast = some .directory) : ∃ made, tree.make path e = .ok made :=
  ⟨tree.insert path e hfree hparent, by rw [make, dif_pos hfree, dif_pos hparent]⟩

theorem make_eq_error {e : DevEntry} {errno : Errno} (h : tree.make path e = .error errno) :
    errno = .eexist ∧ tree.entry path ≠ none ∨
      errno ≠ .eexist ∧ errno ≠ .enotempty ∧ tree.entry path.dropLast ≠ some .directory := by
  unfold make at h
  split_ifs at h with hfree hparent hnone
  · obtain rfl := Except.error.inj h
    exact Or.inr ⟨by simp, by simp, hparent⟩
  · obtain rfl := Except.error.inj h
    exact Or.inr ⟨by simp, by simp, hparent⟩
  · obtain rfl := Except.error.inj h
    exact Or.inl ⟨rfl, hfree⟩

/-- There is nothing in a file that does not exist. -/
theorem entry_below (h : tree.entry path = none) (rest : List String) :
    tree.entry (path ++ rest) = none := by
  induction rest using List.reverseRecOn with
  | nil => rwa [List.append_nil]
  | append_singleton rest name ih =>
    by_contra hne
    rw [← List.append_assoc] at hne
    exact absurd (ih.symm.trans (tree.parent _ _ hne)) (by simp)

/-- Removing a file undoes everything that was done to it since it was made. -/
theorem remove_eq (hfree : tree.entry path = none)
    (h : ∀ p, ¬ path <+: p → tree'.entry p = tree.entry p) : tree'.remove path = tree := by
  ext p : 2
  change (if path <+: p then none else tree'.entry p) = tree.entry p
  split_ifs with hpre
  · obtain ⟨rest, rfl⟩ := hpre
    exact (entry_below hfree rest).symm
  · exact h p hpre

/-- There is a new directory in `tree'`. -/
structure NewDirectory (tree : DevTree) (path : List String) (tree' : DevTree) : Prop where
  free : tree.entry path = none
  entry : ∀ p, tree'.entry p = if p = path then some .directory else tree.entry p

namespace NewDirectory

variable (h : NewDirectory tree path tree')
include h

theorem self : tree'.entry path = some .directory := by rw [h.entry, if_pos rfl]

/-- It is empty. -/
theorem below {rest : List String} (hrest : rest ≠ []) : tree'.entry (path ++ rest) = none := by
  rw [h.entry, if_neg (by simpa using hrest), entry_below h.free]

theorem outside {p : List String} (hp : ¬ path <+: p) : tree'.entry p = tree.entry p := by
  rw [h.entry, if_neg (by rintro rfl; exact hp (List.prefix_refl _))]

end NewDirectory

theorem exec_tempDir {dir base : String}
    (h : tree.make (pathElements (suffix.name tree dir base)) .directory = .ok tree') :
    exec suffix (.tempDir dir base) tree = (.ok (suffix.name tree dir base), tree') := by
  simp only [exec, h]

theorem step_tempDir {dir base : String} {r : Except String String}
    (h : (server suffix).Step (.tempDir dir base) tree r tree') :
    (∃ err, r = .error err ∧ tree' = tree) ∨ (r = .ok (suffix.name tree dir base) ∧
      tree.make (pathElements (suffix.name tree dir base)) .directory = .ok tree') := by
  rcases h with ⟨hr, htree⟩ | ⟨⟨err, hr⟩, htree⟩
  · simp only [server, exec] at hr htree
    cases hmake : tree.make (pathElements (suffix.name tree dir base)) .directory with
    | error errno =>
      rw [hmake] at hr htree
      exact Or.inl ⟨_, hr, htree⟩
    | ok made =>
      rw [hmake] at hr htree
      exact Or.inr ⟨hr, by rw [htree]⟩
  · exact Or.inl ⟨err, hr, htree⟩

variable (suffix) in
theorem exec_mknod {node : String} {mode : UInt32} {dev : Int64}
    (h : tree.make (pathElements node) (nodeOf mode dev) = .ok tree') :
    exec suffix (.mknod node mode dev) tree = (.ok (), tree') := by
  simp only [exec, h]

theorem step_mknod {node : String} {mode : UInt32} {dev : Int64} {r : Except OsError Unit}
    (h : (server suffix).Step (.mknod node mode dev) tree r tree') :
    (∃ err, r = .error err ∧ tree' = tree ∧
      (err.isExist = false ∨ tree.entry (pathElements node) ≠ none)) ∨
    (r = .ok () ∧ tree.make (pathElements node) (nodeOf mode dev) = .ok tree') := by
  rcases h with ⟨hr, htree⟩ | ⟨⟨err, hr, hexist⟩, htree⟩
  · simp only [server, exec] at hr htree
    cases hmake : tree.make (pathElements node) (nodeOf mode dev) with
    | error errno =>
      rw [hmake] at hr htree
      refine Or.inl ⟨_, hr, htree, (make_eq_error hmake).elim (fun h => Or.inr h.2) fun h => ?_⟩
      exact Or.inl (by simp [OsError.isExist, h.1, h.2.1])
    | ok made =>
      rw [hmake] at hr htree
      exact Or.inr ⟨hr, by rw [htree]⟩
  · exact Or.inl ⟨err, hr, htree, Or.inl hexist⟩

end DevTree

/-! ## Making the node -/

/-- The directory that is to be removed, if there is one. -/
def Created.cleanup : Created → Option String
  | .failed _ cleanup => cleanup
  | .device _ cleanup => some cleanup
  | _ => none

/-- What was changed since `tree` is what the function `cleanup` removes. -/
def Restores (tree tree' : DevTree) : Option String → Prop
  | none => tree' = tree
  | some dir => tree'.remove (pathElements dir) = tree

section MakeNode

open DevTree

variable {suffix : Suffix} {tree tree₁ tree' : DevTree} {init : List String} {name : String}
  (hdev : Canonical (init ++ [name])) {major minor : ℕ} {r : Created}

include hdev in
/-- In a new directory there is nothing yet, and no place for a path with more than one
element. -/
theorem runs_makeNodeIn {tmpDir : String} (htmp : Canonical (pathElements tmpDir))
    (hnew : NewDirectory tree (pathElements tmpDir) tree₁)
    (hrun : Prog.Runs (server suffix)
      (Remote.makeNodeIn tmpDir (joinRegistryPath (init ++ [name])) major minor) tree₁ r tree') :
    r.cleanup = some tmpDir ∧ (∀ p, ¬ pathElements tmpDir <+: p → tree'.entry p = tree.entry p) ∧
      ∀ devNode dir, r = .device devNode dir → init = [] ∧
        tree'.entry (pathElements devNode) = some (nodeOf (sIFBLK ||| 0x1b6)
          (makedev (Int64.ofNat major) (Int64.ofNat minor))) := by
  have hnode := pathElements_node htmp hdev
  obtain ⟨reply, tree₂, hstep, hrest⟩ := Prog.runs_call_iff.1 hrun
  rcases step_mknod hstep with ⟨err, rfl, rfl, hexist⟩ | ⟨rfl, hmake⟩
  · -- nothing is there that would make this a success
    have hfail : err.isExist = false := hexist.resolve_right fun hne => hne (by
      rw [hnode, List.append_assoc]
      exact hnew.below (by simp))
    simp only [hfail, if_true] at hrest
    obtain ⟨rfl, rfl⟩ := Prog.runs_ret_iff.1 hrest
    exact ⟨rfl, fun p hp => hnew.outside hp, by rintro devNode dir ⟨⟩⟩
  · obtain ⟨rfl, rfl⟩ := Prog.runs_ret_iff.1 hrest
    obtain ⟨-, hparent, hentry⟩ := make_eq_ok hmake
    rw [hnode] at hparent hentry
    refine ⟨rfl, fun p hp => ?_, ?_⟩
    · rw [hentry, if_neg, hnew.outside hp]
      rintro rfl
      exact hp ((List.prefix_append _ init).trans (List.prefix_append _ [name]))
    · rintro devNode dir ⟨⟩
      refine ⟨?_, by rw [hnode, hentry, if_pos rfl]⟩
      by_contra hinit
      rw [List.dropLast_concat, hnew.below hinit] at hparent
      exact absurd hparent (by simp)

include hdev in
/-- **What `makeNode` can do.**  All that it makes is in the temporary directory, and it succeeds
only for a device whose name is a single element, with a new node for the given numbers. -/
theorem runs_makeNode (hrun : Prog.Runs (server suffix)
      (Remote.makeNode (joinRegistryPath (init ++ [name])) major minor) tree r tree') :
    Restores tree tree' r.cleanup ∧ ∀ devNode dir, r = .device devNode dir → init = [] ∧
      tree'.entry (pathElements devNode) = some (nodeOf (sIFBLK ||| 0x1b6)
        (makedev (Int64.ofNat major) (Int64.ofNat minor))) := by
  obtain ⟨reply, tree₁, hstep, hrest⟩ := Prog.runs_call_iff.1 hrun
  rcases step_tempDir hstep with ⟨err, rfl, rfl⟩ | ⟨rfl, hmake⟩
  · obtain ⟨rfl, rfl⟩ := Prog.runs_ret_iff.1 hrest
    exact ⟨rfl, by rintro devNode dir ⟨⟩⟩
  · obtain ⟨hfree, -, hentry⟩ := make_eq_ok hmake
    obtain ⟨number, hcanonical, htmp⟩ := pathElements_tempDir suffix tree hdev
    obtain ⟨hcleanup, houtside, hdevice⟩ :=
      runs_makeNodeIn hdev (by rwa [htmp]) ⟨hfree, hentry⟩ hrest
    rw [hcleanup]
    exact ⟨remove_eq hfree houtside, hdevice⟩

/-- A node is made wherever there is a place for the temporary directory. -/
theorem run_makeNode (suffix : Suffix) (major minor : ℕ) (hname : Canonical [name])
    (hdir : tree.entry ["dev"] = some .directory)
    (hfree : tree.entry (pathElements (suffix.name tree "/dev" name)) = none) :
    ∃ devNode dir tree', (Remote.makeNode name major minor).run (server suffix) tree =
        (.device devNode dir, tree') ∧
      tree'.entry (pathElements devNode) = some (nodeOf (sIFBLK ||| 0x1b6)
        (makedev (Int64.ofNat major) (Int64.ofNat minor))) := by
  have hjoin : joinRegistryPath ([] ++ [name]) = name := by simp [joinRegistryPath]
  have hsingle : Canonical ([] ++ [name]) := hname
  obtain ⟨number, hcanonical, htmp⟩ := pathElements_tempDir suffix tree hsingle
  rw [hjoin] at htmp
  -- the directory
  obtain ⟨tree₁, hmake₁⟩ := make_of_free .directory hfree (by rw [htmp]; exact hdir)
  obtain ⟨-, -, hentry₁⟩ := make_eq_ok hmake₁
  have hnew : NewDirectory tree (pathElements (suffix.name tree "/dev" name)) tree₁ :=
    ⟨hfree, hentry₁⟩
  -- the node in it
  have hnode := pathElements_node (htmp ▸ hcanonical) hsingle
  rw [hjoin, List.append_nil] at hnode
  obtain ⟨tree₂, hmake₂⟩ := make_of_free (nodeOf (sIFBLK ||| 0x1b6)
      (makedev (Int64.ofNat major) (Int64.ofNat minor)))
    (hnew.below (List.cons_ne_nil name [])) (by rw [List.dropLast_concat]; exact hnew.self)
  rw [← hnode] at hmake₂
  obtain ⟨-, -, hentry₂⟩ := make_eq_ok hmake₂
  refine ⟨_, suffix.name tree "/dev" name, tree₂, ?_, by rw [hentry₂, if_pos rfl]⟩
  rw [Remote.makeNode, Prog.run_call]
  simp only [server, exec_tempDir hmake₁]
  rw [Remote.makeNodeIn, Prog.run_call]
  simp only [exec_mknod suffix hmake₂]
  rfl

end MakeNode

end Oim.Csi
