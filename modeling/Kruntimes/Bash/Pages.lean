import Mathlib.Algebra.BigOperators.Group.List.Basic
import Mathlib.Data.List.Induction
import Mathlib.Data.List.Pairwise
import Mathlib.Data.List.Sort
import Mathlib.Data.String.Basic

/-!
# Pages of session files

A page keeps the smallest names above the token out of an unordered directory, and the
token of the next page is its last name.  A page with a token is never empty, so that an
iteration over finitely many names ends.
-/

namespace Kruntimes.Bash

/-! ## The smallest names -/

section

variable {κ : Type} [LinearOrder κ]

/-- One more name in a sorted list of at most `size` names above `after`.  The binary search
finds the first name that is not smaller. -/
def retain (after : κ) (size : Nat) (kept : List κ) (name : κ) : List κ :=
  if name ≤ after then kept else (kept.orderedInsert (· ≤ ·) name).take size

/-- What is cut off cannot come back. -/
theorem take_orderedInsert (size : Nat) (name : κ) (kept : List κ) :
    ((kept.take size).orderedInsert (· ≤ ·) name).take size =
      (kept.orderedInsert (· ≤ ·) name).take size := by
  induction kept generalizing size with
  | nil => simp
  | cons first rest ih =>
    cases size with
    | zero => rfl
    | succ size =>
      rw [List.take_succ_cons, List.orderedInsert_cons, List.orderedInsert_cons]
      split
      · cases size <;> simp [List.take_take]
      · rw [List.take_succ_cons, List.take_succ_cons, ih]

/-- The fold keeps the start of the sorted names above `after`. -/
theorem exists_foldl_retain_eq_take (after : κ) {names : List κ} (distinct : names.Nodup) :
    ∃ above : List κ, above.Pairwise (· < ·) ∧
      (∀ name, name ∈ above ↔ name ∈ names ∧ after < name) ∧
      ∀ size, names.foldl (retain after size) [] = above.take size := by
  induction names using List.reverseRecOn with
  | nil => exact ⟨[], .nil, by simp, by simp⟩
  | append_singleton names name ih =>
    rw [List.nodup_append] at distinct
    obtain ⟨above, sorted, mem, kept⟩ := ih distinct.1
    have fresh : name ∉ names := fun old => distinct.2.2 name old name (by simp) rfl
    simp only [List.foldl_append, List.foldl_cons, List.foldl_nil, kept, retain]
    by_cases small : name ≤ after
    · refine ⟨above, sorted, fun other => ?_, fun size => if_pos small⟩
      have : other = name → ¬ after < other := by
        rintro rfl
        exact not_lt.mpr small
      grind
    · refine ⟨above.orderedInsert (· ≤ ·) name, ?_, fun other => ?_, fun size => ?_⟩
      · have ordered := (sorted.imp le_of_lt).orderedInsert name above
        have nodup := (List.perm_orderedInsert (· ≤ ·) name above).nodup_iff.mpr
          (List.nodup_cons.mpr ⟨fun old => fresh ((mem name).mp old).1, sorted.imp ne_of_lt⟩)
        exact (ordered.and nodup).imp fun both => lt_of_le_of_ne both.1 both.2
      · rw [List.mem_orderedInsert, mem]
        grind
      · rw [if_neg small, take_orderedInsert]

end

/-! ## Requests -/

/-- `sessionFilePageToken`, before it is encoded. -/
structure SessionFilePageToken where
  version : Int
  path : String
  after : String

/-- The token is absent, or what it decodes to. -/
structure ListSessionFilesRequest where
  path : String
  limit : Int
  pageToken : Option (Option SessionFilePageToken)

structure SessionFilePage where
  path : String
  after : String
  limit : Nat

def sessionFilePageRequest (request : ListSessionFilesRequest) : Except String SessionFilePage :=
  if request.limit ≠ 0 ∧ (request.limit < 0 ∨ 1000 < request.limit) then
    .error "limit must be between 1 and 1000"
  else
    let limit := if request.limit = 0 then 100 else request.limit.toNat
    match request.pageToken with
    | none => .ok ⟨request.path, "", limit⟩
    | some none => .error "page token is invalid"
    | some (some token) =>
      if token.version ≠ 1 ∨ token.path ≠ request.path ∨ token.after = "" then
        .error "page token does not match the requested directory"
      else .ok ⟨request.path, token.after, limit⟩

def SessionFilePage.nextToken (page : SessionFilePage) (after : String) : SessionFilePageToken :=
  ⟨1, page.path, after⟩

def readSessionFilePage (listing : List String) (after : String) (pageSize : Nat) :
    List String × Bool :=
  let entries := listing.foldl (retain after (pageSize + 1)) []
  if entries.length ≤ pageSize then (entries, false) else (entries.take pageSize, true)

/-- The names of the entries. -/
structure ListSessionFilesResponse where
  entries : List String
  nextPageToken : Option SessionFilePageToken

def listSessionFiles (listing : List String) (request : ListSessionFilesRequest) :
    Except String ListSessionFilesResponse :=
  match sessionFilePageRequest request with
  | .error message => .error message
  | .ok page =>
    let (entries, hasMore) := readSessionFilePage listing page.after page.limit
    .ok ⟨entries, if hasMore then entries.getLast?.map page.nextToken else none⟩

/-! ## Following the tokens -/

/-- A request of the iteration and the directory it finds, in any order.  An iteration goes
on with limits that are accepted. -/
structure Visit where
  limit : Int
  accepted : 0 ≤ limit ∧ limit ≤ 1000
  listing : List String
  distinct : listing.Nodup
  named : "" ∉ listing

def Visit.pageSize (visit : Visit) : Nat :=
  if visit.limit = 0 then 100 else visit.limit.toNat

/-- The pages of an iteration, and whether the last one had no token. -/
def follow (path : String) :
    Option SessionFilePageToken → List Visit → Except String (List (List String) × Bool)
  | _, [] => .ok ([], false)
  | token, visit :: rest => do
    let response ← listSessionFiles visit.listing ⟨path, visit.limit, token.map some⟩
    match response.nextPageToken with
    | none => .ok ([response.entries], true)
    | some next =>
      let (pages, ended) ← follow path (some next) rest
      .ok (response.entries :: pages, ended)

/-- The token after a name; the empty one starts the iteration. -/
def tokenAfter (path after : String) : Option SessionFilePageToken :=
  if after = "" then none else some ⟨1, path, after⟩

theorem listSessionFiles_eq (path after : String) (visit : Visit) :
    ∃ above : List String, above.Pairwise (· < ·) ∧
      (∀ name, name ∈ above ↔ name ∈ visit.listing ∧ after < name) ∧
      listSessionFiles visit.listing ⟨path, visit.limit, (tokenAfter path after).map some⟩ =
        .ok ⟨above.take visit.pageSize, if visit.pageSize < above.length then
            (above.take visit.pageSize).getLast?.map fun last => ⟨1, path, last⟩
          else none⟩ := by
  obtain ⟨above, sorted, mem, kept⟩ := exists_foldl_retain_eq_take after visit.distinct
  refine ⟨above, sorted, mem, ?_⟩
  have request : sessionFilePageRequest ⟨path, visit.limit, (tokenAfter path after).map some⟩ =
      .ok ⟨path, after, visit.pageSize⟩ := by
    have := visit.accepted
    rw [sessionFilePageRequest, if_neg (by grind), tokenAfter]
    by_cases first : after = ""
    · simp [first, Visit.pageSize]
    · simp [first, Visit.pageSize]
  rw [listSessionFiles, request]
  simp only [readSessionFilePage, kept, List.length_take, List.take_take]
  by_cases more : visit.pageSize < above.length
  · rw [if_neg (by omega), if_pos more]
    simp only [Nat.min_eq_left (Nat.le_succ visit.pageSize)]
    rfl
  · rw [if_pos (by omega), if_neg more, List.take_of_length_le (by omega),
      List.take_of_length_le (by omega)]
    simp

theorem Visit.take_ne_nil {visit : Visit} {above : List String}
    (more : visit.pageSize < above.length) : above.take visit.pageSize ≠ [] := by
  have := visit.accepted
  rw [← List.length_pos_iff, List.length_take]
  grind [Visit.pageSize]

/-- What the pages after a name have in common with the directories. -/
structure Listed (after : String) (visits : List Visit) (pages : List (List String))
    (ended : Bool) : Prop where
  increasing : pages.flatten.Pairwise (· < ·)
  above : ∀ name ∈ pages.flatten, after < name
  shown : ∀ name ∈ pages.flatten, ∃ visit ∈ visits.take pages.length, name ∈ visit.listing
  bounded : List.Forall₂ (fun page visit => page.length ≤ visit.pageSize) pages
    (visits.take pages.length)
  progress : ended = false → pages.length = visits.length ∧ ∀ page ∈ pages, page ≠ []
  complete : ended = true → ∀ name, after < name →
    (∀ visit ∈ visits.take pages.length, name ∈ visit.listing) → pages.flatten.count name = 1

/-- A page with a token puts its names before those above the token. -/
theorem Listed.cons {after : String} {visit : Visit} {visits : List Visit}
    {page left : List String} {pages : List (List String)} {ended : Bool} (nonempty : page ≠ [])
    (sorted : (page ++ left).Pairwise (· < ·))
    (mem : ∀ name, name ∈ page ++ left ↔ name ∈ visit.listing ∧ after < name)
    (size : page.length ≤ visit.pageSize)
    (listed : Listed (page.getLast nonempty) visits pages ended) :
    Listed after (visit :: visits) (page :: pages) ended := by
  have shown := page.getLast_mem nonempty
  obtain ⟨front, -, rest⟩ := List.pairwise_append.mp sorted
  have above : ∀ name ∈ page, after < name := fun name here =>
    ((mem name).mp (List.mem_append_left _ here)).2
  have increasing : (page :: pages).flatten.Pairwise (· < ·) := by
    rw [List.flatten_cons, List.pairwise_append]
    exact ⟨front, listed.increasing, fun name here other later =>
      lt_of_le_of_lt ((front.imp le_of_lt).rel_getLast here) (listed.above other later)⟩
  constructor
  · exact increasing
  · intro name shown'
    rcases List.mem_append.mp shown' with here | later
    · exact above name here
    · exact (above _ shown).trans (listed.above name later)
  · intro name shown
    rcases List.mem_append.mp shown with here | later
    · exact ⟨visit, .head _, ((mem name).mp (List.mem_append_left _ here)).1⟩
    · obtain ⟨other, seen, there⟩ := listed.shown name later
      exact ⟨other, .tail _ seen, there⟩
  · exact .cons size listed.bounded
  · intro goes
    obtain ⟨asked, shows⟩ := listed.progress goes
    exact ⟨congrArg Nat.succ asked, List.forall_mem_cons.mpr ⟨nonempty, shows⟩⟩
  · intro done name large present
    apply List.count_eq_one_of_mem (increasing.imp ne_of_lt)
    rw [List.flatten_cons, List.mem_append]
    by_cases later : page.getLast nonempty < name
    · have once := listed.complete done name later fun visit seen =>
        present visit (.tail _ seen)
      exact .inr (List.count_pos_iff.mp (once ▸ Nat.one_pos))
    · have here := (mem name).mpr ⟨present visit (.head _), large⟩
      exact .inl ((List.mem_append.mp here).resolve_right fun old => later (rest _ shown name old))

theorem exists_follow (path : String) (visits : List Visit) :
    ∀ after, ∃ pages ended, follow path (tokenAfter path after) visits = .ok (pages, ended) ∧
      Listed after visits pages ended := by
  induction visits with
  | nil =>
    intro after
    exact ⟨[], false, rfl, .nil, by simp, by simp, .nil, by simp, by simp⟩
  | cons visit visits ih =>
    intro after
    obtain ⟨above, sorted, mem, response⟩ := listSessionFiles_eq path after visit
    rw [follow, response]
    by_cases more : visit.pageSize < above.length
    · have nonempty := visit.take_ne_nil more
      obtain ⟨pages, ended, followed, listed⟩ := ih ((above.take visit.pageSize).getLast nonempty)
      refine ⟨above.take visit.pageSize :: pages, ended, ?_, ?_⟩
      · have named : (above.take visit.pageSize).getLast nonempty ≠ "" := fun unnamed =>
          visit.named (unnamed ▸ ((mem _).mp (List.mem_of_mem_take (List.getLast_mem nonempty))).1)
        rw [tokenAfter, if_neg named] at followed
        rw [if_pos more, List.getLast?_eq_some_getLast nonempty]
        simp only [Option.map_some, followed, bind, Except.bind]
      · rw [← List.take_append_drop visit.pageSize above] at sorted mem
        exact .cons nonempty sorted mem (List.length_take_le _ _) listed
    · rw [if_neg more, List.take_of_length_le (not_lt.mp more)]
      refine ⟨[above], true, rfl, ?_⟩
      constructor
      · simpa using sorted
      · simpa using fun name here => ((mem name).mp here).2
      · simpa using fun name here => ((mem name).mp here).1
      · exact .cons (not_lt.mp more) .nil
      · exact nofun
      · intro _ name large present
        rw [List.flatten_singleton]
        apply List.count_eq_one_of_mem (sorted.imp ne_of_lt)
        simpa [mem, large] using present

/-- An iteration that goes on has shown a name for each request. -/
theorem Listed.ended_of_length_lt {after : String} {visits : List Visit}
    {pages : List (List String)} {ended : Bool} (listed : Listed after visits pages ended)
    {names : List String} (among : ∀ visit ∈ visits, visit.listing ⊆ names)
    (many : names.length < visits.length) : ended = true := by
  cases goes : ended with
  | true => rfl
  | false =>
    obtain ⟨asked, shows⟩ := listed.progress goes
    have inside : pages.flatten ⊆ names := by
      intro name mem
      obtain ⟨visit, seen, here⟩ := listed.shown name mem
      exact among visit (List.mem_of_mem_take seen) here
    have few := (List.subperm_of_subset (listed.increasing.imp ne_of_lt) inside).length_le
    have each : (pages.map List.length).length ≤ (pages.map List.length).sum := by
      apply List.length_le_sum_of_one_le
      rw [List.forall_mem_map]
      exact fun page listed => List.length_pos_iff.mpr (shows page listed)
    rw [List.length_map, ← List.length_flatten] at each
    omega

/-- Whatever happens to the directory between the requests, the pages are complete, and an
iteration over finitely many names ends.  A page has no token exactly when it shows all that
is left; a token is the last name of its page, above the token before. -/
theorem follow_listed (path : String) (visits : List Visit) :
    (∃ pages ended, follow path none visits = .ok (pages, ended) ∧ Listed "" visits pages ended ∧
      ∀ names : List String, (∀ visit ∈ visits, visit.listing ⊆ names) →
        names.length < visits.length → ended = true) ∧
    ∀ after (visit : Visit), ∃ page next,
      listSessionFiles visit.listing ⟨path, visit.limit, (tokenAfter path after).map some⟩ =
        .ok ⟨page, next⟩ ∧
      (next = none ↔ ∀ name ∈ visit.listing, after < name → name ∈ page) ∧
      ∀ token, next = some token → ∃ last, page.getLast? = some last ∧ after < last ∧
        tokenAfter path last = some token := by
  constructor
  · obtain ⟨pages, ended, followed, listed⟩ := exists_follow path visits ""
    exact ⟨pages, ended, followed, listed, fun names => listed.ended_of_length_lt⟩
  intro after visit
  obtain ⟨above, sorted, mem, response⟩ := listSessionFiles_eq path after visit
  refine ⟨_, _, response, ?_⟩
  by_cases more : visit.pageSize < above.length
  · obtain ⟨name, left⟩ := List.exists_mem_of_ne_nil _
      (List.drop_eq_nil_iff.not.mpr (not_le.mpr more))
    obtain ⟨here, large⟩ := (mem name).mp (List.mem_of_mem_drop left)
    have nonempty := visit.take_ne_nil more
    have last := (mem _).mp (List.mem_of_mem_take (List.getLast_mem nonempty))
    rw [if_pos more, List.getLast?_eq_some_getLast nonempty]
    refine ⟨⟨nofun, fun all => ?_⟩, ?_⟩
    · rw [← List.take_append_drop visit.pageSize above, List.pairwise_append] at sorted
      exact absurd (sorted.2.2 name (all name here large) name left) (lt_irrefl name)
    · rintro token ⟨⟩
      have named : (above.take visit.pageSize).getLast nonempty ≠ "" := fun unnamed =>
        visit.named (unnamed ▸ last.1)
      exact ⟨_, rfl, last.2, if_neg named⟩
  · rw [if_neg more, List.take_of_length_le (not_lt.mp more)]
    refine ⟨?_, nofun⟩
    simpa using fun name here large => (mem name).mpr ⟨here, large⟩

end Kruntimes.Bash
