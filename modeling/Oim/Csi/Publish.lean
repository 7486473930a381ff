import Oim.Csi.Mounter

/-!
# Publishing a volume

`NodePublishVolume` of both driver versions (`pkg/oim-csi-driver/nodeserver.go`,
`nodeserver0.go`): make the target path and bind the staging path to it.  If that fails half way
the handler has to find out what it has left behind.

* `Event`, `events` — a run, as far as the handler can tell what happened.
* `Published` — all that can come of a call: what happens, what the caller gets, and what is
  mounted on the target before and after; `logged_nodePublishVolume` — every run is one of these.
* `publish_safe_iff` — a call gets an answer and undoes what it has done, **unless** the check
  after a failed remount does not see the mount, or the check after an unmount still sees one.
-/

namespace Oim.Csi

open Interaction

/-! ## The code -/

/-- What comes of a call. -/
inductive PublishResult where
  | response
  | error (status : Status)
  | panicked

/-- `errors.Wrap`: nothing is made of `nil`. -/
def wrapError (err : Option String) (message : String) : Option String :=
  err.map fun text => message ++ ": " ++ text

/-- `status.Error(codes.Internal, errors.Wrap(err, message).Error())`. -/
def internalError (err : Option String) (message : String) : PublishResult :=
  match wrapError err message with
  | some text => .error ⟨.internal, text⟩
  -- a method of `nil` is called
  | none => .panicked

/-- `csi.NodePublishVolumeRequest`. -/
structure PublishRequest where
  targetPath : String
  stagingTargetPath : String
  volumeID : String
  volumeCapability : Option Capability
  readOnly : Bool

namespace PublishRequest

/-- The checks of `NodePublishVolume`. -/
def check (req : PublishRequest) : Option Status :=
  if req.targetPath = "" then some ⟨.invalidArgument, "empty target path"⟩
  else if req.stagingTargetPath = "" then some ⟨.invalidArgument, "empty staging target path"⟩
  else if req.volumeID = "" then some ⟨.invalidArgument, "empty volume ID"⟩
  else if req.volumeCapability = none then some ⟨.invalidArgument, "missing volume capability"⟩
  else none

/-- The options of the mount. -/
def options (req : PublishRequest) : List String :=
  ["bind"] ++ if req.readOnly then ["ro"] else []

end PublishRequest

/-- The directory is removed if that is possible, and the error of the mount is returned. -/
def mountFailed (targetPath err : String) : Mounting PublishResult :=
  .call (.remove targetPath) fun _ => .ret (internalError (some err) "mount of disk failed")

/-- What is done after a failed mount. -/
def cleanUp (targetPath err : String) : Mounting PublishResult := do
  let (notMnt, mntErr) ← Mounter.isLikelyNotMountPoint targetPath
  if mntErr.isSome then
    return internalError (mntErr.map OsError.text) "check whether target path is a mount point"
  else if notMnt then mountFailed targetPath err
  else
    match ← Mounter.unmount targetPath with
    | .error mntErr => return internalError (some mntErr) "unmount target path"
    | .ok () =>
      let (notMnt, mntErr) ← Mounter.isLikelyNotMountPoint targetPath
      if mntErr.isSome then
        return internalError (mntErr.map OsError.text)
          "check whether target path is a mount point"
      else if notMnt then mountFailed targetPath err
      -- "This is very odd, we don't expect it."
      else return internalError (mntErr.map OsError.text) "something is wrong with mounting"

/-- `NodePublishVolume`, for a target where nothing seems to be mounted. -/
def bindTarget (withSystemd : Bool) (req : PublishRequest) : Mounting PublishResult := do
  match ← Mounter.makeDir req.targetPath with
  | .error err => return internalError (some err.text) "make target dir"
  | .ok () =>
    match ← Mounter.mount withSystemd req.stagingTargetPath req.targetPath "ext4" req.options with
    | .error err => cleanUp req.targetPath err
    | .ok () => return .response

/-- `oimDriver.NodePublishVolume` and `oimDriver03.NodePublishVolume`. -/
def Driver.nodePublishVolume (_ : Driver) (withSystemd : Bool) (req : PublishRequest) :
    Mounting PublishResult :=
  match req.check with
  | some e => .ret (.error e)
  | none => do
    let (notMnt, err) ← Mounter.isLikelyNotMountPoint req.targetPath
    if err.any fun e => !e.isNotExist then
      return internalError (err.map OsError.text) "validate target path"
    else if notMnt then bindTarget withSystemd req
    else return .response

/-! ## Runs -/

/-- What happens in a run. -/
inductive Event where
  | checked (notMnt : Except OsError Bool)
  | made (done : Bool)
  | mounted (done : Bool)
  | unmounted (done : Bool)
  | removed (done : Bool)
  | other

/-- One exchange with the file system. -/
abbrev FileSystem.Exchange : Type :=
  Prog.Exchange FileSystem.Request FileSystem.Request.Reply FileSystem

/-- What happens in an exchange. -/
def FileSystem.Exchange.event : FileSystem.Exchange → Event
  | ⟨_, .isLikelyNotMountPoint _, notMnt⟩ => .checked notMnt
  | ⟨_, .mkdirAll _, .ok ()⟩ => .made true
  | ⟨_, .mkdirAll _, .error err⟩ => .made err.isExist
  | ⟨_, .mount _, r⟩ => .mounted r.isOk
  | ⟨_, .umount _, r⟩ => .unmounted r.isOk
  | ⟨_, .remove _, r⟩ => .removed r.isOk
  | ⟨_, _, _⟩ => .other

/-- What happens in a run. -/
def events (log : List FileSystem.Exchange) : List Event := log.map FileSystem.Exchange.event

/-- What can come of a bind mount: what happens, whether it succeeds, and what is mounted then. -/
inductive Bound (before : List Mounted) : List Event → Bool → List Mounted → Prop where
  | failed : Bound before [.mounted false] false before
  | half (m : Mounted) : Bound before [.mounted true, .mounted false] false (m :: before)
  | done (m : Mounted) : Bound before [.mounted true, .mounted true] true (m :: before)

/-- What can come of the clean-up. -/
inductive CleanedUp (before : List Mounted) :
    List Event → PublishResult → List Mounted → Prop where
  | unclear (err : OsError) (status : Status) :
      CleanedUp before [.checked (.error err)] (.error status) before
  | notSeen (done : Bool) (status : Status) :
      CleanedUp before [.checked (.ok true), .removed done] (.error status) before
  | busy (status : Status) :
      CleanedUp before [.checked (.ok false), .unmounted false] (.error status) before
  | unclearThen (err : OsError) (status : Status) :
      CleanedUp before [.checked (.ok false), .unmounted true, .checked (.error err)]
        (.error status) before.tail
  | stuck :
      CleanedUp before [.checked (.ok false), .unmounted true, .checked (.ok false)] .panicked
        before.tail
  | gone (done : Bool) (status : Status) :
      CleanedUp before [.checked (.ok false), .unmounted true, .checked (.ok true), .removed done]
        (.error status) before.tail

/-- What can come of a call. -/
inductive Published (before : List Mounted) :
    List Event → PublishResult → List Mounted → Prop where
  | refused (status : Status) : Published before [] (.error status) before
  | unclear (err : OsError) (status : Status) :
      Published before [.checked (.error err)] (.error status) before
  | already : Published before [.checked (.ok false)] .response before
  | unmade (first : Except OsError Bool) (status : Status) :
      Published before [.checked first, .made false] (.error status) before
  | bound {first : Except OsError Bool} {es : List Event} {after : List Mounted} :
      Bound before es true after → Published before (.checked first :: .made true :: es) .response
        after
  | cleanedUp {first : Except OsError Bool} {es es' : List Event} {mid after : List Mounted}
      {result : PublishResult} :
      Bound before es false mid → CleanedUp mid es' result after →
      Published before (.checked first :: .made true :: (es ++ es')) result after

section Runs

variable {fs fs' : FileSystem} {log : List FileSystem.Exchange} {target : String}

theorem events_append (log log' : List FileSystem.Exchange) :
    events (log ++ log') = events log ++ events log' := List.map_append

/-- The answer of a check is as it comes. -/
theorem logged_check {α : Type} {k : Bool × Option OsError → Mounting α} {a : α}
    (h : Prog.Logged FileSystem.server ((Mounter.isLikelyNotMountPoint target).bind k) fs log a
      fs') :
    (∃ err log', Prog.Logged FileSystem.server (k (true, some err)) fs log' a fs' ∧
      events log = .checked (.error err) :: events log') ∨
    ∃ notMnt log', Prog.Logged FileSystem.server (k (notMnt, none)) fs log' a fs' ∧
      events log = .checked (.ok notMnt) :: events log' := by
  obtain ⟨answer, fs₁, log', hstep, hrest, rfl⟩ := Prog.logged_call_iff.1 h
  obtain rfl := FileSystem.step_check hstep
  cases answer with
  | error err => exact .inl ⟨err, log', hrest, rfl⟩
  | ok notMnt => exact .inr ⟨notMnt, log', hrest, rfl⟩

theorem logged_makeDir {r : Except OsError Unit}
    (h : Prog.Logged FileSystem.server (Mounter.makeDir target) fs log r fs') :
    fs'.table = fs.table ∧ events log = [.made r.isOk] := by
  obtain ⟨answer, fs₁, log', hstep, hrest, rfl⟩ := Prog.logged_call_iff.1 h
  have htable := FileSystem.step_mkdirAll hstep
  cases answer with
  | ok u =>
    obtain ⟨rfl, rfl, rfl⟩ := Prog.logged_ret_iff.1 hrest
    exact ⟨htable, rfl⟩
  | error err =>
    by_cases hexist : err.isExist = true
    · simp only [hexist, if_true] at hrest
      obtain ⟨rfl, rfl, rfl⟩ := Prog.logged_ret_iff.1 hrest
      exact ⟨htable, congrArg (fun b => [Event.made b]) hexist⟩
    · simp only [hexist] at hrest
      obtain ⟨rfl, rfl, rfl⟩ := Prog.logged_ret_iff.1 hrest
      exact ⟨htable, congrArg (fun b => [Event.made b]) (Bool.eq_false_iff.2 hexist)⟩

/-- A failed command and a remount do nothing to the mounts, any other command adds one. -/
theorem logged_doMount {withSystemd : Bool} {entry : MountEntry} {r : Except String Unit}
    (h : Prog.Logged FileSystem.server (Mounter.doMount withSystemd entry) fs log r fs') :
    events log = [.mounted r.isOk] ∧
      ((fs' = fs ∧ (r.isOk = true → "remount" ∈ entry.options)) ∨
        (r.isOk = true ∧ "remount" ∉ entry.options ∧
          ∃ m, fs'.mountsAt entry.target = m :: fs.mountsAt entry.target)) := by
  obtain ⟨answer, fs₁, log', hstep, hrest, rfl⟩ := Prog.logged_call_iff.1 h
  rcases FileSystem.step_mount hstep with
    ⟨⟨err, output⟩, rfl, rfl⟩ | ⟨rfl, hopt, rfl⟩ | ⟨rfl, hopt, m, hm, htable⟩
  · obtain ⟨rfl, rfl, rfl⟩ := Prog.logged_ret_iff.1 hrest
    exact ⟨rfl, .inl ⟨rfl, fun h => nomatch h⟩⟩
  · obtain ⟨rfl, rfl, rfl⟩ := Prog.logged_ret_iff.1 hrest
    exact ⟨rfl, .inl ⟨rfl, fun _ => hopt⟩⟩
  · obtain ⟨rfl, rfl, rfl⟩ := Prog.logged_ret_iff.1 hrest
    refine ⟨rfl, .inr ⟨rfl, hopt, m, ?_⟩⟩
    simp [FileSystem.mountsAt, htable, hm]

theorem isBind_options (req : PublishRequest) :
    Mounter.isBind req.options =
      (true, ["bind"], ["bind", "remount"] ++ if req.readOnly then ["ro"] else []) := by
  unfold PublishRequest.options
  cases req.readOnly <;> decide

theorem logged_mount {withSystemd : Bool} {source fstype : String} {req : PublishRequest}
    {r : Except String Unit}
    (h : Prog.Logged FileSystem.server (Mounter.mount withSystemd source target fstype req.options)
      fs log r fs') :
    Bound (fs.mountsAt target) (events log) r.isOk (fs'.mountsAt target) := by
  rw [Mounter.mount, isBind_options] at h
  obtain ⟨r₁, fs₁, log₁, log₂, hbind, hrest, rfl⟩ := Prog.logged_bind_iff.1 h
  obtain ⟨hlog₁, hfs₁⟩ := logged_doMount hbind
  rcases hfs₁ with ⟨rfl, hopt⟩ | ⟨hr₁, -, m, hm⟩
  · cases r₁ with
    | ok u => exact absurd (hopt rfl) (by simp)
    | error err =>
      obtain ⟨rfl, rfl, rfl⟩ := Prog.logged_ret_iff.1 hrest
      rw [events_append, hlog₁]
      exact .failed
  · cases r₁ with
    | error err => exact nomatch hr₁
    | ok u =>
      obtain ⟨hlog₂, hfs'⟩ := logged_doMount hrest
      have hsame : fs' = fs₁ := by
        rcases hfs' with ⟨hsame, -⟩ | ⟨-, hopt, -⟩
        · exact hsame
        · exact absurd (by simp) hopt
      rw [events_append, hlog₁, hlog₂, hsame, hm]
      cases r with
      | error err => exact .half m
      | ok u => exact .done m

theorem logged_unmount {α : Type} {k : Except String Unit → Mounting α} {a : α}
    (h : Prog.Logged FileSystem.server ((Mounter.unmount target).bind k) fs log a fs') :
    (∃ err log', Prog.Logged FileSystem.server (k (.error err)) fs log' a fs' ∧
      events log = .unmounted false :: events log') ∨
    ∃ log', Prog.Logged FileSystem.server (k (.ok ())) (fs.dropMount target) log' a fs' ∧
      events log = .unmounted true :: events log' := by
  obtain ⟨answer, fs₁, log', hstep, hrest, rfl⟩ := Prog.logged_call_iff.1 h
  rcases FileSystem.step_umount hstep with ⟨⟨err, output⟩, rfl, rfl⟩ | ⟨rfl, rfl⟩
  · exact .inl ⟨_, log', hrest, rfl⟩
  · exact .inr ⟨log', hrest, rfl⟩

/-- Removing the directory does nothing to the mounts. -/
theorem logged_mountFailed {err : String} {result : PublishResult}
    (h : Prog.Logged FileSystem.server (mountFailed target err) fs log result fs') :
    (∃ status, result = .error status) ∧ (∃ done, events log = [.removed done]) ∧
      fs'.mountsAt target = fs.mountsAt target := by
  obtain ⟨answer, fs₁, log', hstep, hrest, rfl⟩ := Prog.logged_call_iff.1 h
  obtain ⟨rfl, rfl, rfl⟩ := Prog.logged_ret_iff.1 hrest
  refine ⟨⟨_, rfl⟩, ⟨_, rfl⟩, ?_⟩
  rcases FileSystem.step_remove hstep with ⟨e, -, rfl⟩ | ⟨-, hfree, rfl⟩ <;> rfl

theorem logged_cleanUp {err : String} {result : PublishResult}
    (h : Prog.Logged FileSystem.server (cleanUp target err) fs log result fs') :
    CleanedUp (fs.mountsAt target) (events log) result (fs'.mountsAt target) := by
  rcases logged_check h with ⟨mntErr, log₁, hrest, hlog⟩ | ⟨notMnt, log₁, hrest, hlog⟩
  · obtain ⟨rfl, rfl, rfl⟩ := Prog.logged_ret_iff.1 hrest
    exact hlog ▸ .unclear mntErr _
  rw [hlog]
  cases notMnt with
  | true =>
    obtain ⟨⟨status, rfl⟩, ⟨done, hlog₁⟩, hmounts⟩ := logged_mountFailed hrest
    rw [hlog₁, hmounts]
    exact .notSeen done status
  | false =>
    rcases logged_unmount hrest with ⟨mntErr, log₂, hrest, hlog₁⟩ | ⟨log₂, hrest, hlog₁⟩
    · obtain ⟨rfl, rfl, rfl⟩ := Prog.logged_ret_iff.1 hrest
      exact hlog₁ ▸ .busy _
    rw [hlog₁]
    have hdrop : (fs.dropMount target).mountsAt target = (fs.mountsAt target).tail :=
      FileSystem.mountsAt_dropMount target
    rcases logged_check hrest with ⟨mntErr, log₃, hrest, hlog₂⟩ | ⟨notMnt, log₃, hrest, hlog₂⟩
    · obtain ⟨rfl, rfl, rfl⟩ := Prog.logged_ret_iff.1 hrest
      rw [hlog₂, hdrop]
      exact .unclearThen mntErr _
    rw [hlog₂]
    cases notMnt with
    | true =>
      obtain ⟨⟨status, rfl⟩, ⟨done, hlog₃⟩, hmounts⟩ := logged_mountFailed hrest
      rw [hlog₃, hmounts, hdrop]
      exact .gone done status
    | false =>
      obtain ⟨rfl, rfl, rfl⟩ := Prog.logged_ret_iff.1 hrest
      rw [hdrop]
      exact .stuck

theorem logged_bindTarget {withSystemd : Bool} {req : PublishRequest} {result : PublishResult}
    (first : Except OsError Bool)
    (h : Prog.Logged FileSystem.server (bindTarget withSystemd req) fs log result fs') :
    Published (fs.mountsAt req.targetPath) (.checked first :: events log) result
      (fs'.mountsAt req.targetPath) := by
  obtain ⟨made, fs₁, log₁, log₂, hmake, hrest, rfl⟩ := Prog.logged_bind_iff.1 h
  obtain ⟨htable, hlog₁⟩ := logged_makeDir hmake
  have hmounts : fs₁.mountsAt req.targetPath = fs.mountsAt req.targetPath :=
    congrArg (List.filter _) htable
  rw [← hmounts, events_append, hlog₁]
  cases made with
  | error err =>
    obtain ⟨rfl, rfl, rfl⟩ := Prog.logged_ret_iff.1 hrest
    exact .unmade first _
  | ok u =>
    obtain ⟨r, fs₂, log₃, log₄, hmount, hrest, rfl⟩ := Prog.logged_bind_iff.1 hrest
    have hbound := logged_mount hmount
    rw [events_append]
    change Published _ (.checked first :: .made true :: (events log₃ ++ events log₄)) result _
    cases r with
    | error err => exact .cleanedUp hbound (logged_cleanUp hrest)
    | ok u =>
      obtain ⟨rfl, rfl, rfl⟩ := Prog.logged_ret_iff.1 hrest
      rw [show events [] = [] from rfl, List.append_nil]
      exact .bound hbound

/-- Every run is one of these. -/
theorem logged_nodePublishVolume {driver : Driver} {withSystemd : Bool} {req : PublishRequest}
    {result : PublishResult}
    (h : Prog.Logged FileSystem.server (driver.nodePublishVolume withSystemd req) fs log result
      fs') :
    Published (fs.mountsAt req.targetPath) (events log) result (fs'.mountsAt req.targetPath) := by
  unfold Driver.nodePublishVolume at h
  cases hreq : req.check with
  | some status =>
    simp only [hreq] at h
    obtain ⟨rfl, rfl, rfl⟩ := Prog.logged_ret_iff.1 h
    exact .refused status
  | none =>
    simp only [hreq] at h
    rcases logged_check h with ⟨err, log₁, hrest, hlog⟩ | ⟨notMnt, log₁, hrest, hlog⟩
    · rw [hlog]
      by_cases hexist : err.isNotExist = true
      · simp only [Option.any_some, hexist] at hrest
        exact logged_bindTarget _ hrest
      · simp only [Option.any_some, hexist] at hrest
        obtain ⟨rfl, rfl, rfl⟩ := Prog.logged_ret_iff.1 hrest
        exact .unclear err _
    · rw [hlog]
      cases notMnt with
      | true => exact logged_bindTarget _ hrest
      | false =>
        obtain ⟨rfl, rfl, rfl⟩ := Prog.logged_ret_iff.1 hrest
        exact .already

end Runs

/-! ## Safety -/

/-- The handler answers; it reports success only if the target was a mount point or has become
one; and if it reports an error although every unmount was done, then nothing is mounted on the
target that was not there before. -/
structure PublishSafe (es : List Event) (result : PublishResult) (before after : List Mounted) :
    Prop where
  answered : result ≠ .panicked
  mounted : result = .response →
    es.head? = some (.checked (.ok false)) ∨ [.mounted true, .mounted true] <:+: es
  undone : ∀ status, result = .error status → .unmounted false ∉ es → after <:+ before

/-- The target is a mount point after it was unmounted. -/
def StillMounted (es : List Event) : Prop :=
  [.checked (.ok false), .unmounted true, .checked (.ok false)] <:+ es

/-- The bind mount is made and the remount has failed, and the check after that does not see the
mount. -/
def Unseen (es : List Event) : Prop :=
  ∃ answer, answer ≠ .ok false ∧ [.mounted true, .mounted false, .checked answer] <:+: es

section Safety

variable {es : List Event} {result : PublishResult} {before after : List Mounted}

theorem Published.stillMounted_iff (h : Published before es result after) :
    StillMounted es ↔ result = .panicked := by
  unfold StillMounted
  cases h with
  | refused status => simp
  | unclear err status => simp [List.suffix_cons_iff]
  | already => simp [List.suffix_cons_iff]
  | unmade first status => simp [List.suffix_cons_iff]
  | bound hbound =>
    cases hbound
    simp [List.suffix_cons_iff]
  | cleanedUp hbound hclean =>
    -- only the last three events count
    cases hbound <;> cases hclean <;> simp [List.suffix_cons_iff]

theorem Published.unseen_iff (h : Published before es result after) :
    Unseen es ↔ (∃ status, result = .error status) ∧ .unmounted false ∉ es ∧
      ¬ after <:+ before := by
  have hnew : ∀ (m : Mounted) (before : List Mounted), ¬ m :: before <:+ before :=
    fun m before hsuffix => absurd hsuffix.length_le (Nat.not_succ_le_self _)
  unfold Unseen
  cases h with
  | refused status => simp
  | unclear err status => simp [List.infix_cons_iff]
  | already => simp [List.infix_cons_iff]
  | unmade first status => simp [List.infix_cons_iff]
  | bound hbound =>
    cases hbound
    simp [List.infix_cons_iff]
  | cleanedUp hbound hclean =>
    cases hbound <;> cases hclean <;> simp [List.infix_cons_iff, List.tail_suffix, hnew]

theorem Published.mounted (h : Published before es result after) (hresponse : result = .response) :
    es.head? = some (.checked (.ok false)) ∨ [.mounted true, .mounted true] <:+: es := by
  cases h with
  | refused status => exact nomatch hresponse
  | unclear err status => exact nomatch hresponse
  | already => exact .inl rfl
  | unmade first status => exact nomatch hresponse
  | bound hbound =>
    cases hbound
    exact .inr ⟨[.checked _, .made true], [], rfl⟩
  | cleanedUp hbound hclean =>
    subst hresponse
    cases hclean

/-- **When publishing a volume is safe.**  Whatever fails and whatever the checks answer, it is,
unless the check after a failed remount does not see the mount, or the check after an unmount
still sees one. -/
theorem publish_safe_iff (driver : Driver) (withSystemd : Bool) (req : PublishRequest)
    (fs fs' : FileSystem) (log : List FileSystem.Exchange) (result : PublishResult)
    (h : Prog.Logged FileSystem.server (driver.nodePublishVolume withSystemd req) fs log result
      fs') :
    PublishSafe (events log) result (fs.mountsAt req.targetPath) (fs'.mountsAt req.targetPath) ↔
      ¬ (StillMounted (events log) ∨ Unseen (events log)) := by
  have hpublished := logged_nodePublishVolume h
  rw [not_or, hpublished.stillMounted_iff, hpublished.unseen_iff]
  constructor
  · rintro ⟨hanswered, -, hundone⟩
    exact ⟨hanswered, fun ⟨⟨status, hstatus⟩, hdone, hleft⟩ => hleft (hundone status hstatus hdone)⟩
  · rintro ⟨hanswered, hleft⟩
    refine ⟨hanswered, hpublished.mounted, fun status hstatus hdone => ?_⟩
    exact not_not.1 fun hnot => hleft ⟨⟨status, hstatus⟩, hdone, hnot⟩

/-- A directory for the target, and a staging path with a file system on another device. -/
def FileSystem.staged : FileSystem where
  dir := fun path => if path = "/staging" ∨ path = "/target" then .empty else .missing
  parentDev := fun _ => 1
  table := [⟨"/staging", .ok 2, fun _ h => nomatch h⟩]
  mountPoint := by simp

/-- The same with the staging path bound to the target. -/
def FileSystem.published : FileSystem :=
  FileSystem.staged.addMount ⟨"/target", .ok 2, fun _ h => nomatch h⟩ (by decide)

/-- A request for a read-only volume. -/
def PublishRequest.vol : PublishRequest where
  targetPath := "/target"
  stagingTargetPath := "/staging"
  volumeID := "vol"
  volumeCapability := stageVol.volumeCapability
  readOnly := true

/-- Nothing fails. -/
theorem publish_safe_staged :
    ∃ log fs', Prog.Logged FileSystem.server (Driver.oimDriver.nodePublishVolume false .vol)
        .staged log .response fs' ∧
      PublishSafe (events log) .response (FileSystem.staged.mountsAt "/target")
        (fs'.mountsAt "/target") := by
  obtain ⟨log, fs', h, hlog⟩ : ∃ log fs', Prog.Logged FileSystem.server
      (Driver.oimDriver.nodePublishVolume false .vol) .staged log .response fs' ∧
      events log = [.checked (.ok true), .made true, .mounted true, .mounted true] :=
    ⟨_, _, .call (.inl ⟨rfl, rfl⟩) (.call (.inl ⟨rfl, rfl⟩) (.call (.inl ⟨rfl, rfl⟩)
      (.call (.inl ⟨rfl, rfl⟩) (.ret _ _)))), rfl⟩
  refine ⟨log, fs', h, (publish_safe_iff _ _ _ _ _ _ _ h).2 ?_⟩
  rw [hlog]
  simp [StillMounted, Unseen, List.suffix_cons_iff, List.infix_cons_iff]

/-- The bind mount is made and cannot be made read-only.  If the check after the unmount still
sees a mount point, then the handler panics; if the check before it fails, then the target stays
mounted. -/
theorem publish_unsafe_readOnly :
    (∃ log fs', Prog.Logged FileSystem.server (Driver.oimDriver.nodePublishVolume false .vol)
        .staged log .panicked fs') ∧
      ∃ log status fs', Prog.Logged FileSystem.server
          (Driver.oimDriver.nodePublishVolume false .vol) .staged log (.error status) fs' ∧
        (∀ x ∈ log, ∀ target, x.request ≠ .umount target) ∧
        ¬ FileSystem.staged.IsMounted "/target" ∧ fs'.IsMounted "/target" := by
  constructor
  · exact ⟨_, _, .call (.inl ⟨rfl, rfl⟩) (.call (.inl ⟨rfl, rfl⟩) (.call (.inl ⟨rfl, rfl⟩)
      (.call (.inr ⟨⟨("exit status 32", ""), rfl⟩, rfl⟩) (.call (.inl ⟨rfl, rfl⟩)
      (.call (.inl ⟨rfl, rfl⟩) (.call (.inr ⟨trivial, rfl⟩ : FileSystem.server.Step
        (.isLikelyNotMountPoint "/target") _ (.ok false) _) (.ret _ _)))))))⟩
  · refine ⟨_, _, _, .call (.inl ⟨rfl, rfl⟩) (.call (.inl ⟨rfl, rfl⟩) (.call (.inl ⟨rfl, rfl⟩)
      (.call (.inr ⟨⟨("exit status 32", ""), rfl⟩, rfl⟩)
      (.call (.inr ⟨trivial, rfl⟩ : FileSystem.server.Step (.isLikelyNotMountPoint "/target") _
        (.error ⟨.eacces, "permission denied"⟩) _) (.ret _ _))))), ?_, by decide, ?_⟩
    · simp
    · exact fun h => nomatch h

end Safety

/-! ## When nothing fails -/

section Works

variable {fs : FileSystem} {target source : String}

end Works

end Oim.Csi
