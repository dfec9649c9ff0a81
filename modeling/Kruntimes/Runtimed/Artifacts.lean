import Kruntimes.Runtimed.Calls
import Mathlib.Data.List.Induction
import Mathlib.Data.List.Sort

/-!
# Artifacts are collected as a whole

`collectArtifacts` stores the entries of the staging directory one by one.  It removes all
that the store holds of the Run when one of them fails, and is called again after an error
or a lost status update.
-/

namespace Kruntimes.Artifacts

open Runtimed

/-- Addition and subtraction of `int64` wrap around. -/
def int64 (value : Int) : Int := value.bmod (2 ^ 64)

theorem int64_eq {value : Int} (nonneg : 0 ≤ value) (small : value < 2 ^ 63) :
    int64 value = value := by
  unfold int64
  rw [Int.bmod_eq_of_le] <;> omega

/-! ## The staging directory -/

/-- What `Lstat` tells of a path. -/
inductive FileKind
  | symlink
  | regular (size : Int)
  | directory
  | special

inductive ArtifactType
  | file
  | directory

/-- An entry, with the paths that `WalkDir` visits below it. -/
structure Staged where
  name : List UInt8
  kind : FileKind
  below : List (String × FileKind)

def inspectBelow (maxBytes : Int) : Int → List (String × FileKind) → Option String
  | _, [] => none
  | _, (path, .symlink) :: _ => some (path ++ ": symbolic links are not allowed")
  | total, (_, .directory) :: rest => inspectBelow maxBytes total rest
  | _, (path, .special) :: _ => some (path ++ ": special files are not allowed")
  | total, (_, .regular size) :: rest =>
    if maxBytes < int64 (total + size) then some ("size exceeds " ++ toString maxBytes ++ " bytes")
    else inspectBelow maxBytes (int64 (total + size)) rest

def inspectArtifact (maxBytes : Int) (entry : Staged) : Except String ArtifactType :=
  match entry.kind with
  | .symlink => .error "symbolic links are not allowed"
  | .regular size =>
    if maxBytes < size then
      .error ("size " ++ toString size ++ " exceeds " ++ toString maxBytes ++ " bytes")
    else .ok .file
  | .directory =>
    match inspectBelow maxBytes 0 entry.below with
    | some message => .error message
    | none => .ok .directory
  | .special => .error "special files are not allowed"

/-! ## Collecting -/

/-- An error that `errors.Is` or `isArtifactInvalid` takes for a fault of the artifact, or
another one. -/
inductive PutError
  | artifact (message : String)
  | other (message : String)

/-- One call's surroundings.  `σ` is what the store may hold of the Run; a `Put` may have
changed it whatever it reports. -/
structure Surroundings (ρ σ : Type) where
  readDir : Option String
  finalizer : Option String
  put : List UInt8 → ArtifactType → Int → σ → Except PutError ρ × σ
  deleteRun : Option String

/-- The variables of the loop, and what the store holds of the Run. -/
structure Upload (ρ σ : Type) where
  store : σ
  refs : List ρ := []
  totalBytes : Int := 0
  uploadStarted : Bool := false

/-- What is collected: the staging directory and the settings of the controller.  `quote` is
the verb `%q`, and `ρ` the type of the references.  The limits, an individual one and one for
the total, are small enough to be added. -/
structure Collection (ρ : Type) where
  staging : List Staged
  quote : List UInt8 → String
  sizeBytes : ρ → Int
  size_nonneg : ∀ ref, 0 ≤ sizeBytes ref
  maxArtifactBytes : Int
  maxArtifactsBytes : Int
  maxArtifactBytes_lt : maxArtifactBytes < 2 ^ 62
  maxArtifactsBytes_lt : maxArtifactsBytes < 2 ^ 62

def joinError (deleted : Option String) (error : ArtifactError) : ArtifactError :=
  let join (message : String) := deleted.elim message fun failed =>
    message ++ "\nrollback partial artifacts: delete Run artifacts: " ++ failed
  match error with
  | .invalid message => .invalid (join message)
  | .transient message => .transient (join message)

namespace Collection

variable {ρ σ : Type} (files : Collection ρ)

/-- `maxArtifactBytes`. -/
def limit : Int :=
  if 0 < files.maxArtifactBytes then files.maxArtifactBytes else 2 ^ 30

/-- `maxArtifactsBytes`. -/
def totalLimit : Int :=
  if 0 < files.maxArtifactsBytes then files.maxArtifactsBytes else 10 * 2 ^ 30

def validateName (name : List UInt8) : Option String :=
  if name = [] then some "artifact name is required"
  else if String.fromUTF8? name.toByteArray = none then some "artifact name must be valid UTF-8"
  else if 255 < name.length then some "artifact name exceeds 255 bytes"
  else if name = [46] ∨ name = [46, 46] ∨ 47 ∈ name ∨ 92 ∈ name then
    some ("artifact name " ++ files.quote name ++ " must not contain path separators")
  else none

def uploadEntry (around : Surroundings ρ σ) (upload : Upload ρ σ) (entry : Staged) :
    Except (ArtifactError × Upload ρ σ) (Upload ρ σ) :=
  let artifact := "artifact " ++ files.quote entry.name
  let exceeded := "total stored artifact size exceeds " ++ toString files.totalLimit ++ " bytes"
  match files.validateName entry.name with
  | some message => .error (.invalid ("invalid " ++ artifact ++ ": " ++ message), upload)
  | none =>
    match inspectArtifact files.limit entry with
    | .error message => .error (.invalid (artifact ++ ": " ++ message), upload)
    | .ok type =>
      let maxStoredBytes := min files.limit (int64 (files.totalLimit - upload.totalBytes))
      if maxStoredBytes ≤ 0 then .error (.invalid exceeded, upload)
      else
        let (answer, store) := around.put entry.name type maxStoredBytes upload.store
        let begun := { upload with store, uploadStarted := true }
        match answer with
        | .error (.artifact message) =>
          .error (.invalid ("store " ++ artifact ++ ": " ++ message), begun)
        | .error (.other message) =>
          .error (.transient ("store " ++ artifact ++ ": " ++ message), begun)
        | .ok ref =>
          if files.limit < files.sizeBytes ref then
            .error (.invalid ("stored " ++ artifact ++ " exceeds " ++
              toString files.limit ++ " bytes"), begun)
          else
            let totalBytes := int64 (upload.totalBytes + files.sizeBytes ref)
            if files.totalLimit < totalBytes then .error (.invalid exceeded, begun)
            else .ok { begun with refs := upload.refs ++ [ref], totalBytes }

/-- The entries in the order of their names. -/
def sorted : List Staged :=
  files.staging.insertionSort (·.name ≤ ·.name)

/-- An absent directory has no entries.  The answer comes with what the store then holds;
`DeleteRun` leaves nothing of the Run, which is `empty`. -/
def collectArtifacts (empty : σ) (around : Surroundings ρ σ) (store : σ) :
    Except ArtifactError (List ρ) × σ :=
  match around.readDir with
  | some message => (.error (.transient ("read artifact staging directory: " ++ message)), store)
  | none =>
    if 32 < files.staging.length then
      (.error (.invalid ("artifact count " ++ toString files.staging.length ++
        " exceeds limit 32")), store)
    else if files.staging = [] then (.ok [], store)
    else
      match around.finalizer with
      | some message => (.error (.transient message), store)
      | none =>
        match files.sorted.foldlM (files.uploadEntry around) { store } with
        | .ok upload => (.ok upload.refs, upload.store)
        | .error (error, upload) =>
          if upload.uploadStarted then (.error (joinError around.deleteRun error), empty)
          else (.error error, upload.store)

/-! ## One call -/

/-- The checks that need no store. -/
def passes (entry : Staged) : Prop :=
  files.validateName entry.name = none ∧ ∃ type, inspectArtifact files.limit entry = .ok type

/-- The entries have been put into the store one after the other, and these are the references
that `Put` has reported for them, each within the limit. -/
inductive Puts (around : Surroundings ρ σ) : σ → List Staged → List ρ → σ → Prop
  | nil (store : σ) : Puts around store [] [] store
  | cons {store next final : σ} {entry : Staged} {entries : List Staged} {ref : ρ} {refs : List ρ}
      {type : ArtifactType} {most : Int} (valid : files.validateName entry.name = none)
      (inspected : inspectArtifact files.limit entry = .ok type) (room : most ≤ files.limit)
      (put : around.put entry.name type most store = (.ok ref, next))
      (small : files.sizeBytes ref ≤ files.limit) (rest : Puts around next entries refs final) :
      Puts around store (entry :: entries) (ref :: refs) final

/-- The staging directory is in the store as a whole: its entries were put there in the order
of their names, within the limits. -/
structure Returned (around : Surroundings ρ σ) (store : σ) (refs : List ρ) (left : σ) : Prop where
  count : files.staging.length ≤ 32
  stored : ∃ entries, entries.Perm files.staging ∧ entries.Pairwise (·.name ≤ ·.name) ∧
    Puts files around store entries refs left
  total : (refs.map files.sizeBytes).sum ≤ files.totalLimit

variable {files} {around : Surroundings ρ σ} {upload : Upload ρ σ}

theorem limit_pos : 0 < files.limit := by
  unfold limit
  split <;> omega

theorem limits_small : files.limit < 2 ^ 62 ∧ files.totalLimit < 2 ^ 62 := by
  have one := files.maxArtifactBytes_lt
  have all := files.maxArtifactsBytes_lt
  unfold limit totalLimit
  constructor <;> split <;> omega

theorem Puts.passes {entries : List Staged} {refs : List ρ} {store left : σ}
    (puts : files.Puts around store entries refs left) : ∀ entry ∈ entries, files.passes entry := by
  induction puts with
  | nil => exact nofun
  | cons valid inspected _ _ _ _ ih =>
    intro entry mem
    rcases List.mem_cons.mp mem with rfl | later
    · exact ⟨valid, _, inspected⟩
    · exact ih entry later

/-- An entry is uploaded, refused with the store as it was, or the upload fails. -/
theorem uploadEntry_cases (entry : Staged) (nonneg : 0 ≤ upload.totalBytes)
    (bounded : upload.totalBytes ≤ files.totalLimit) :
    (∃ ref store type most, files.validateName entry.name = none ∧
      inspectArtifact files.limit entry = .ok type ∧ most ≤ files.limit ∧
      around.put entry.name type most upload.store = (.ok ref, store) ∧
      files.sizeBytes ref ≤ files.limit ∧
      upload.totalBytes + files.sizeBytes ref ≤ files.totalLimit ∧
      files.uploadEntry around upload entry = .ok ⟨store, upload.refs ++ [ref],
        upload.totalBytes + files.sizeBytes ref, true⟩) ∨
    ∃ error stopped, files.uploadEntry around upload entry = .error (error, stopped) ∧
      (stopped.uploadStarted = true ∨ stopped = upload ∧
        (files.passes entry → files.totalLimit ≤ upload.totalBytes)) := by
  have positive := files.limit_pos
  have small := files.limits_small
  unfold uploadEntry
  dsimp only
  split
  · next name => exact .inr ⟨_, _, rfl, .inr ⟨rfl, fun passes => by simp [passes.1] at name⟩⟩
  next name =>
  split
  · next inspected =>
    exact .inr ⟨_, _, rfl, .inr ⟨rfl, fun ⟨_, _, passed⟩ => by simp [passed] at inspected⟩⟩
  next type inspected =>
  split
  · next none =>
    rw [int64_eq (by omega) (by omega)] at none
    exact .inr ⟨_, _, rfl, .inr ⟨rfl, fun _ => by omega⟩⟩
  split
  · exact .inr ⟨_, _, rfl, .inl rfl⟩
  · exact .inr ⟨_, _, rfl, .inl rfl⟩
  next ref answered =>
  split
  · exact .inr ⟨_, _, rfl, .inl rfl⟩
  next fits =>
  have size := files.size_nonneg ref
  rw [int64_eq (by omega) (by omega : upload.totalBytes + files.sizeBytes ref < 2 ^ 63)]
  split
  · exact .inr ⟨_, _, rfl, .inl rfl⟩
  next exceeds =>
    exact .inl ⟨ref, _, type, _, name, inspected, min_le_left _ _, Prod.ext answered rfl,
      not_lt.mp fits, not_lt.mp exceeds, rfl⟩

/-- The loop uploads all entries, or it stops with an upload begun, or it refuses the first
entry. -/
theorem foldlM_uploadEntry_cases {entries : List Staged} (nonneg : 0 ≤ upload.totalBytes)
    (bounded : upload.totalBytes ≤ files.totalLimit) :
    (∃ final refs, entries.foldlM (files.uploadEntry around) upload = .ok final ∧
      final.refs = upload.refs ++ refs ∧ files.Puts around upload.store entries refs final.store ∧
      upload.totalBytes + (refs.map files.sizeBytes).sum ≤ files.totalLimit) ∨
    ∃ error stopped, entries.foldlM (files.uploadEntry around) upload =
      .error (error, stopped) ∧ (stopped.uploadStarted = true ∨
        upload.uploadStarted = false ∧ stopped = upload ∧ ∃ entry ∈ entries,
          files.passes entry → files.totalLimit ≤ upload.totalBytes) := by
  induction entries generalizing upload with
  | nil => exact .inl ⟨upload, [], rfl, by simp, .nil _, by simpa using bounded⟩
  | cons entry rest ih =>
    rw [List.foldlM_cons]
    rcases uploadEntry_cases entry nonneg bounded with
      ⟨ref, store, type, most, valid, inspected, room, put, small, less, uploaded⟩ |
        ⟨error, stopped, failed, cause⟩
    · rw [uploaded]
      have size := files.size_nonneg ref
      rcases @ih ⟨store, upload.refs ++ [ref], _, true⟩ (by dsimp only; omega) less with
        ⟨final, refs, done, same, others, sum⟩ | ⟨error, stopped, failed, begun | ⟨unbegun, _⟩⟩
      · refine .inl ⟨final, ref :: refs, done, by simpa using same,
          .cons valid inspected room put small others, ?_⟩
        simpa [add_assoc] using sum
      · exact .inr ⟨error, stopped, failed, .inl begun⟩
      · cases unbegun
    · rw [failed]
      refine .inr ⟨error, stopped, rfl, ?_⟩
      cases begun : upload.uploadStarted with
      | true => exact .inl (cause.elim id fun same => same.1 ▸ begun)
      | false =>
        exact cause.imp id fun ⟨same, cause⟩ => ⟨rfl, same, entry, .head _, cause⟩

variable (empty : σ)

/-- A call returns references for all entries, removes everything, or leaves the store as it
is and finds a fault only where no call returns. -/
theorem collectArtifacts_cases (around : Surroundings ρ σ) (store : σ) :
    (∃ refs left, files.collectArtifacts empty around store = (.ok refs, left) ∧
      files.Returned around store refs left) ∨
    ∃ error left, files.collectArtifacts empty around store = (.error error, left) ∧
      (left = empty ∨ left = store ∧ ∀ message, error = .invalid message →
        ∀ (other : Surroundings ρ σ) before refs after,
          ¬ files.Returned other before refs after) := by
  have positive : 0 < files.totalLimit := by
    unfold totalLimit
    split <;> omega
  have perm : files.sorted.Perm files.staging := List.perm_insertionSort _ _
  have ordered : files.sorted.Pairwise (·.name ≤ ·.name) := List.pairwise_insertionSort _ _
  unfold collectArtifacts
  split
  · exact .inr ⟨_, _, rfl, .inr ⟨rfl, nofun⟩⟩
  split
  · next many =>
    exact .inr ⟨_, _, rfl, .inr ⟨rfl, fun _ _ _ _ _ _ few => not_lt.mpr few.count many⟩⟩
  next few =>
  split
  · next none =>
    refine .inl ⟨[], store, rfl, not_lt.mp few, ⟨files.sorted, perm, ordered, ?_⟩,
      by simpa using positive.le⟩
    rw [sorted, none]
    exact .nil store
  split
  · exact .inr ⟨_, _, rfl, .inr ⟨rfl, nofun⟩⟩
  rcases @foldlM_uploadEntry_cases _ _ _ _ { store } files.sorted le_rfl positive.le with
    ⟨final, refs, done, same, puts, sum⟩ | ⟨error, stopped, failed, begun⟩
  · rw [done]
    refine .inl ⟨_, _, rfl, not_lt.mp few, ⟨files.sorted, perm, ordered, ?_⟩, ?_⟩
    · rw [same]
      exact puts
    · simpa [same] using sum
  · rw [failed]
    right
    dsimp only
    split
    · exact ⟨_, _, rfl, .inl rfl⟩
    next unbegun =>
      obtain ⟨-, rfl, entry, mem, cause⟩ := begun.resolve_left unbegun
      refine ⟨_, _, rfl, .inr ⟨rfl, fun _ _ other before refs after returned => ?_⟩⟩
      obtain ⟨entries, same, -, puts⟩ := returned.stored
      have passed := puts.passes entry ((same.trans perm.symm).mem_iff.mpr mem)
      exact absurd (cause passed) (not_le.mpr positive)

/-! ## Repeated calls -/

variable (files)

/-- What the store holds after some calls. -/
def storeAfter (calls : List (Surroundings ρ σ)) : σ :=
  calls.foldl (fun store around => (files.collectArtifacts empty around store).2) empty

/-- One of the calls has returned references. -/
def Succeeded (calls : List (Surroundings ρ σ)) : Prop :=
  ∃ earlier call later refs, calls = earlier ++ call :: later ∧
    (files.collectArtifacts empty call (files.storeAfter empty earlier)).1 = .ok refs

variable {files} {empty}

/-- Without a call that succeeded the store is empty. -/
theorem storeAfter_eq_empty {calls : List (Surroundings ρ σ)}
    (failed : ¬ files.Succeeded empty calls) : files.storeAfter empty calls = empty := by
  induction calls using List.reverseRecOn with
  | nil => rfl
  | append_singleton calls call ih =>
    have before := ih fun ⟨earlier, former, later, refs, same, ok⟩ =>
      failed ⟨earlier, former, later ++ [call], refs, by simp [same], ok⟩
    rw [storeAfter, List.foldl_append]
    change (files.collectArtifacts empty call (files.storeAfter empty calls)).2 = empty
    rcases files.collectArtifacts_cases empty call (files.storeAfter empty calls) with
      ⟨refs, left, ok, _⟩ | ⟨error, left, ended, cause⟩
    · exact absurd ⟨calls, call, [], refs, rfl, congrArg Prod.fst ok⟩ failed
    · rw [ended]
      exact cause.elim id fun same => same.1.trans before

end Collection

end Kruntimes.Artifacts
