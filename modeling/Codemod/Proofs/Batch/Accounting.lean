import Codemod.Proofs.Batch.Reporting

/-! The books of a batch.
Whatever the store answers and in whatever order workers take their steps, each file has one event
and at most one call of the writer, both by what reading the file gave: the writer is called with
the revised text of a file that is text and is changed by the rule sets, and for no other. -/

namespace Codemod

/-- A call of the writer, with its outcome. -/
structure Call where
  path : Path
  content : List Char
  outcome : Except IoError Unit
deriving DecidableEq

/-- A store that also keeps the calls of its writer, in order. -/
def Store.logged {σ : Type} (store : Store σ) : Store (σ × List Call) where
  read p s := store.read p s.1
  write p content s :=
    let (outcome, after) := store.write p content s.1
    (outcome, after, s.2 ++ [⟨p, content, outcome⟩])

namespace Batch

/-- The text of a file as the rule sets leave it. -/
def revisedText (sets : List RuleSet) (p : Path) (text : List Char) : List Char :=
  (Pipeline.revise sets (.ofContent p text)).1.current

/-- What a commit amounts to: the calls of the writer, and the result. -/
inductive Committed (p : Path) (loaded revised : List Char) : List Call → FileResult → Prop
  | unchanged (same : revised = loaded) : Committed p loaded revised [] .unchanged
  | changed (differs : revised ≠ loaded) :
    Committed p loaded revised [⟨p, revised, .ok ()⟩] .changed
  | unwritten (differs : revised ≠ loaded) (cause : IoError) :
    Committed p loaded revised [⟨p, revised, .error cause⟩] (.failed (.write p cause))

/-- What becomes of a file, by what reading it gave: the calls of the writer, and the event. -/
inductive Handled (sets : List RuleSet) (o : Options) (p : Path) :
    Except IoError (List UInt8) → List Call → Event → Prop
  | unread (cause : IoError) :
    Handled sets o p (.error cause) [] { path := p, result := .failed (.read p cause) }
  | noText {bytes : List UInt8} {cause : Utf8.DecodeError}
      (malformed : Utf8.decode bytes = .error cause) :
    Handled sets o p (.ok bytes) [] { path := p, result := .failed (.encoding p cause) }
  | committed {bytes : List UInt8} {text : List Char} {calls : List Call} {result : FileResult}
      (decoded : Utf8.decode bytes = .ok text)
      (committed : Committed p text (revisedText sets p text) calls result) :
    Handled sets o p (.ok bytes) calls (loadedEvent sets o p text result)

/-- The text of a file, by what reading it gave. -/
def sourceOf (p : Path) : Except IoError (List UInt8) → Except FileError (List Char)
  | .error cause => .error (.read p cause)
  | .ok bytes => (Utf8.decode bytes).mapError (.encoding p)

theorem readSource_eq {σ : Type} (store : Store σ) (p : Path) (s : σ) :
    readSource store p s = sourceOf p (store.read p s) := by
  rw [readSource]
  cases store.read p s with
  | error cause => rfl
  | ok bytes =>
    simp only [sourceOf]
    cases Utf8.decode bytes with
    | error cause => rfl
    | ok text => rfl

section Ledger

variable {σ : Type} (store : Store σ) (sets : List RuleSet) (o : Options)

/-- A commit adds its calls to the log, and the log has no effect on it. -/
theorem commit_logged (p : Path) (loaded revised : List Char) (s : σ) (log : List Call) :
    ∃ calls, Committed p loaded revised calls (commit store p loaded revised s).1 ∧
      commit store.logged p loaded revised (s, log) =
        ((commit store p loaded revised s).1, (commit store p loaded revised s).2,
          log ++ calls) := by
  by_cases hsame : revised = loaded
  · have idle {τ : Type} (other : Store τ) (s : τ) :
        commit other p loaded revised s = (.unchanged, s) := if_pos hsame
    rw [idle, idle]
    exact ⟨[], .unchanged hsame, by rw [List.append_nil]⟩
  · rw [commit_of_ne store p hsame, commit_of_ne store.logged p hsame]
    rcases hwrite : store.write p revised s with ⟨cause | _, after⟩
    · exact ⟨_, .unwritten hsame cause, by simp [Store.logged, hwrite]⟩
    · exact ⟨_, .changed hsame, by simp [Store.logged, hwrite]⟩

/-- So does all that is done about a file after it was read. -/
theorem finish_logged (p : Path) (got : Except IoError (List UInt8)) (s : σ) (log : List Call) :
    ∃ calls, Handled sets o p got calls (finish store sets o p (sourceOf p got) s).1 ∧
      finish store.logged sets o p (sourceOf p got) (s, log) =
        ((finish store sets o p (sourceOf p got) s).1,
          (finish store sets o p (sourceOf p got) s).2, log ++ calls) := by
  cases got with
  | error cause => exact ⟨[], .unread cause, by simp [sourceOf, finish]⟩
  | ok bytes =>
    cases hdecode : Utf8.decode bytes with
    | error cause =>
      have hsource : sourceOf p (.ok bytes) = .error (.encoding p cause) := by
        simp [sourceOf, hdecode, Except.mapError]
      rw [hsource]
      exact ⟨[], .noText hdecode, by simp [finish]⟩
    | ok text =>
      have hsource : sourceOf p (.ok bytes) = .ok text := by
        simp [sourceOf, hdecode, Except.mapError]
      obtain ⟨calls, hcommitted, hcommit⟩ :=
        commit_logged store p text (revisedText sets p text) s log
      rw [hsource, finish_ok, finish_ok]
      refine ⟨calls, .committed hdecode hcommitted, ?_⟩
      rw [← revisedText, hcommit]

variable (paths : List Path) (s : σ)

/-- What reading a path gives after some turns. -/
def readAfter (turns : List Nat) (p : Path) : Except IoError (List UInt8) :=
  store.read p ((Running.start paths s).interleave store sets o turns).state

/-- How far the work on the path at a position has come after some turns, and the calls of the
writer for it. It was read at its first turn. -/
inductive Progress (turns : List Nat) (i : Nat) (p : Path) : Work → List Call → Prop
  | waiting (none : i ∉ turns) : Progress turns i p .waiting []
  | loaded {before after : List Nat} (first : i ∉ before) (split : turns = before ++ i :: after) :
    Progress turns i p (.loaded (sourceOf p (readAfter store sets o paths s before p))) []
  | done {before after : List Nat} {calls : List Call} {event : Event} (first : i ∉ before)
      (split : turns = before ++ i :: after)
      (handled : Handled sets o p (readAfter store sets o paths s before p) calls event) :
    Progress turns i p (.done event) calls

variable {store sets o paths s}

/-- The turn of another path makes no difference. -/
theorem Progress.concat {turns : List Nat} {i : Nat} {p : Path} {w : Work} {calls : List Call}
    (h : Progress store sets o paths s turns i p w calls) {j : Nat} (hne : i ≠ j) :
    Progress store sets o paths s (turns ++ [j]) i p w calls := by
  cases h with
  | waiting none => exact .waiting (by simp [none, hne])
  | loaded first split => exact .loaded first (by rw [split, List.append_assoc, List.cons_append])
  | done first split handled =>
    exact .done first (by rw [split, List.append_assoc, List.cons_append]) handled

/-- Without the log. -/
def Running.forget (r : Running (σ × List Call)) : Running σ :=
  ⟨r.state.1, r.work⟩

variable (store sets o paths s)

/-- The books after some turns: the calls of each path, which make up the log. -/
structure Booked (turns : List Nat) (r : Running (σ × List Call)) (ledger : List (List Call)) :
    Prop where
  forget_eq : r.forget = (Running.start paths s).interleave store sets o turns
  paths_eq : r.work.map Prod.fst = paths
  log : r.state.2.Perm ledger.flatten
  length : ledger.length = paths.length
  progress : ∀ i p, paths[i]? = some p → ∃ w calls, r.work[i]? = some (p, w) ∧
    ledger[i]? = some calls ∧ Progress store sets o paths s turns i p w calls

theorem booked_start :
    Booked store sets o paths s [] (.start paths (s, []))
      (List.replicate paths.length []) where
  forget_eq := rfl
  paths_eq := paths_start paths (s, [])
  log := by simp [Running.start]
  length := List.length_replicate
  progress i p hp := by
    have inside := (List.getElem?_eq_some_iff.mp hp).1
    exact ⟨.waiting, [], by simp [Running.start, hp], List.getElem?_replicate_of_lt inside,
      .waiting List.not_mem_nil⟩

variable {store sets o paths s}

/-- What is added to one entry of a ledger is added to the whole. -/
theorem perm_flatten_set {α : Type} {ledger : List (List α)} {i : Nat} {calls : List α}
    (h : ledger[i]? = some calls) (new : List α) :
    (ledger.flatten ++ new).Perm (ledger.set i (calls ++ new)).flatten := by
  induction ledger generalizing i with
  | nil => simp at h
  | cons first rest ih =>
    cases i with
    | zero =>
      have heq : first = calls := by simpa using h
      rw [heq, List.set_cons_zero, List.flatten_cons, List.flatten_cons, List.append_assoc,
        List.append_assoc]
      exact List.perm_append_comm.append_left calls
    | succ i =>
      have hrest : rest[i]? = some calls := by simpa using h
      rw [List.set_cons_succ, List.flatten_cons, List.flatten_cons, List.append_assoc]
      exact (ih hrest).append_left first

section Turn

variable {turns : List Nat} {r : Running (σ × List Call)} {ledger : List (List Call)}
  (h : Booked store sets o paths s turns r ledger)
include h

theorem Booked.interleave_concat (j : Nat) :
    (Running.start paths s).interleave store sets o (turns ++ [j]) =
      r.forget.turn store sets o j := by
  rw [Running.interleave, List.foldl_append, h.forget_eq]
  rfl

/-- A turn on a path adds to the log what it adds to the calls of that path. -/
theorem Booked.advance {j : Nat} {q : Path} (hj : paths[j]? = some q) {calls : List Call}
    (hledger : ledger[j]? = some calls) {w : Work} {new : List Call} {after : σ}
    (hturn : r.turn store.logged sets o j = ⟨(after, r.state.2 ++ new), r.work.set j (q, w)⟩)
    (hplain : r.forget.turn store sets o j = ⟨after, r.work.set j (q, w)⟩)
    (hprogress : Progress store sets o paths s (turns ++ [j]) j q w (calls ++ new)) :
    Booked store sets o paths s (turns ++ [j]) (r.turn store.logged sets o j)
      (ledger.set j (calls ++ new)) := by
  have inLedger := (List.getElem?_eq_some_iff.mp hledger).1
  have inWork : j < r.work.length := by
    have hlength := congrArg List.length h.paths_eq
    rw [List.length_map] at hlength
    rw [hlength, ← h.length]
    exact inLedger
  rw [hturn]
  refine ⟨?_, ?_, ?_, ?_, ?_⟩
  · rw [h.interleave_concat, hplain]
    rfl
  · obtain ⟨inPaths, hget⟩ := List.getElem?_eq_some_iff.mp hj
    rw [List.map_set, h.paths_eq, ← hget, List.set_getElem_self]
  · exact (h.log.append_right new).trans (perm_flatten_set hledger new)
  · rw [List.length_set, h.length]
  · intro i p hp
    by_cases hij : i = j
    · subst hij
      obtain rfl : q = p := Option.some.inj (hj.symm.trans hp)
      exact ⟨w, calls ++ new, List.getElem?_set_self inWork, List.getElem?_set_self inLedger,
        hprogress⟩
    · obtain ⟨w', calls', hwork, hcalls, hold⟩ := h.progress i p hp
      refine ⟨w', calls', ?_, ?_, hold.concat hij⟩
      · rw [List.getElem?_set_ne (Ne.symm hij), hwork]
      · rw [List.getElem?_set_ne (Ne.symm hij), hcalls]

/-- Every turn keeps the books. -/
theorem Booked.turn (j : Nat) :
    ∃ ledger',
      Booked store sets o paths s (turns ++ [j]) (r.turn store.logged sets o j) ledger' := by
  cases hj : paths[j]? with
  | none =>
    have outside : r.work[j]? = none := by
      have hmap : (r.work.map Prod.fst)[j]? = none := by rw [h.paths_eq, hj]
      simpa using hmap
    have idle : r.turn store.logged sets o j = r := by rw [Running.turn, outside]
    have idle' : r.forget.turn store sets o j = r.forget := by
      rw [Running.turn]
      simp only [Running.forget, outside]
    refine ⟨ledger, ?_⟩
    rw [idle]
    refine ⟨?_, h.paths_eq, h.log, h.length, ?_⟩
    · rw [h.interleave_concat, idle']
    · intro i p hp
      obtain ⟨w, calls, hwork, hcalls, hold⟩ := h.progress i p hp
      have hij : i ≠ j := by
        rintro rfl
        rw [hj] at hp
        cases hp
      exact ⟨w, calls, hwork, hcalls, hold.concat hij⟩
  | some q =>
    obtain ⟨w, calls, hwork, hledger, hprogress⟩ := h.progress j q hj
    have hwork' : r.forget.work[j]? = some (q, w) := hwork
    cases hprogress with
    | waiting none =>
      -- The path is read.
      let got := readAfter store sets o paths s turns q
      have hread : readSource store.logged q r.state = sourceOf q got := by
        rw [readSource_eq]
        simp only [got, readAfter, ← h.forget_eq]
        rfl
      have hread' : readSource store q r.forget.state = sourceOf q got := by
        rw [readSource_eq]
        simp only [got, readAfter, ← h.forget_eq]
      have hturn : r.turn store.logged sets o j =
          ⟨(r.state.1, r.state.2 ++ []), r.work.set j (q, .loaded (sourceOf q got))⟩ := by
        rw [turn_of_some hwork, Work.next, hread, List.append_nil]
      have hplain : r.forget.turn store sets o j =
          ⟨r.state.1, r.work.set j (q, .loaded (sourceOf q got))⟩ := by
        rw [turn_of_some hwork', Work.next, hread']
        rfl
      exact ⟨_, h.advance hj hledger hturn hplain (.loaded none rfl)⟩
    | @loaded before after first split =>
      -- The path is committed.
      let got := readAfter store sets o paths s before q
      let done := finish store sets o q (sourceOf q got) r.state.1
      obtain ⟨new, hhandled, hfinish⟩ := finish_logged store sets o q got r.state.1 r.state.2
      have hturn : r.turn store.logged sets o j =
          ⟨(done.2, r.state.2 ++ new), r.work.set j (q, .done done.1)⟩ := by
        rw [turn_of_some hwork, Work.next]
        simp only [hfinish, done, got]
      have hplain : r.forget.turn store sets o j = ⟨done.2, r.work.set j (q, .done done.1)⟩ := by
        rw [turn_of_some hwork', Work.next]
        rfl
      have hsplit : turns ++ [j] = before ++ j :: (after ++ [j]) := by
        rw [split, List.append_assoc, List.cons_append]
      exact ⟨_, h.advance hj hledger hturn hplain (.done first hsplit hhandled)⟩
    | @done before after _ event first split handled =>
      -- Nothing is left to do.
      have hturn : r.turn store.logged sets o j =
          ⟨(r.state.1, r.state.2 ++ []), r.work.set j (q, .done event)⟩ := by
        rw [turn_of_some hwork, Work.next, List.append_nil]
      have hplain : r.forget.turn store sets o j =
          ⟨r.state.1, r.work.set j (q, .done event)⟩ := by
        rw [turn_of_some hwork', Work.next]
        rfl
      have hsplit : turns ++ [j] = before ++ j :: (after ++ [j]) := by
        rw [split, List.append_assoc, List.cons_append]
      rw [← List.append_nil calls] at handled
      exact ⟨_, h.advance hj hledger hturn hplain (.done first hsplit handled)⟩

end Turn

/-- Whatever the order of the turns, the books are kept. -/
theorem booked_interleave (turns : List Nat) :
    ∃ ledger, Booked store sets o paths s turns
      ((Running.start paths (s, [])).interleave store.logged sets o turns) ledger := by
  induction turns using List.reverseRecOn with
  | nil => exact ⟨_, booked_start store sets o paths s⟩
  | append_singleton turns j ih =>
    obtain ⟨ledger, hbooked⟩ := ih
    have step : (Running.start paths (s, [])).interleave store.logged sets o (turns ++ [j]) =
        ((Running.start paths (s, [])).interleave store.logged sets o turns).turn
          store.logged sets o j := by
      rw [Running.interleave, List.foldl_append]
      rfl
    rw [step]
    exact hbooked.turn j

theorem Work.eq_done_of_steps {w : Work} (h : w.steps = 2) : ∃ event, w = .done event := by
  cases w with
  | waiting => cases h
  | loaded content => cases h
  | done event => exact ⟨event, rfl⟩

theorem Running.map_work_of_complete {r : Running σ} (h : r.Complete) :
    r.work.map Prod.snd = r.events.map .done := by
  rw [Complete] at h
  rw [events]
  generalize r.work = work at h ⊢
  induction work with
  | nil => rfl
  | cons item rest ih =>
    obtain ⟨event, hevent⟩ := Work.eq_done_of_steps (h item List.mem_cons_self)
    have hrest := ih fun item hitem => h item (List.mem_cons_of_mem _ hitem)
    simp only [List.map_cons, List.filterMap_cons, hevent, hrest]

variable (store sets o)

/-- Each path has an event and a ledger of calls of the writer, as they follow from what reading
the path gave at its first turn, and the log holds the calls of all ledgers. -/
structure Balanced (paths : List Path) (s : σ) (turns : List Nat) (events : List Event)
    (ledgers : List (List Call)) (log : List Call) : Prop where
  events_length : events.length = paths.length
  ledgers_length : ledgers.length = paths.length
  handled : ∀ i p, paths[i]? = some p → ∃ before after event calls,
    turns = before ++ i :: after ∧ i ∉ before ∧ events[i]? = some event ∧
      ledgers[i]? = some calls ∧
      Handled sets o p (readAfter store sets o paths s before p) calls event
  log_perm : log.Perm ledgers.flatten

/-- The books of workers are balanced when each path has had its two turns. -/
theorem balanced_pool (paths : List Path) (s : σ) {turns : List Nat}
    (hturns : ∀ i < paths.length, 2 ≤ turns.count i) :
    let logged := pool store.logged sets o turns paths (s, [])
    pool store sets o turns paths s = (logged.1, logged.2.1) ∧
      ∃ ledgers, Balanced store sets o paths s turns logged.1 ledgers logged.2.2 := by
  intro logged
  let final := (Running.start paths (s, [])).interleave store.logged sets o turns
  obtain ⟨ledgers, hbooked⟩ : ∃ ledgers, Booked store sets o paths s turns final ledgers :=
    booked_interleave turns
  have complete : final.Complete := complete_interleave store.logged sets o (s, []) hturns
  have hevents := Running.map_work_of_complete complete
  have hlength : final.events.length = paths.length := by
    have hwork := congrArg List.length hevents
    have hpaths := congrArg List.length hbooked.paths_eq
    simp only [List.length_map] at hwork hpaths
    omega
  refine ⟨?_, ledgers, hlength, hbooked.length, ?_, hbooked.log⟩
  · have hforget := hbooked.forget_eq
    rw [pool, ← hforget]
    rfl
  · intro i p hp
    obtain ⟨w, calls, hwork, hcalls, hprogress⟩ := hbooked.progress i p hp
    obtain ⟨event, rfl⟩ := Work.eq_done_of_steps (complete _ (List.mem_of_getElem? hwork))
    have hevent : final.events[i]? = some event := by
      have hmapped : (final.events.map Work.done)[i]? = some (.done event) := by
        rw [← hevents, List.getElem?_map, hwork, Option.map_some]
      simpa using hmapped
    cases hprogress with
    | done first split handled => exact ⟨_, _, event, calls, split, first, hevent, hcalls, handled⟩

end Ledger

end Batch

namespace Summary

theorem total_record (s : Summary) (result : FileResult) :
    (s.record result).total = s.total + 1 := by
  cases result with
  | changed => simp only [record, total]; omega
  | unchanged => simp only [record, total]; omega
  | failed cause => simp only [record, total]; omega

theorem total_ofEvents (events : List Event) : (ofEvents events).total = events.length := by
  have fold (s : Summary) :
      (events.foldl (fun s e => s.record e.result) s).total = s.total + events.length := by
    induction events generalizing s with
    | nil => rfl
    | cons e rest ih =>
      rw [List.foldl_cons, ih, total_record, List.length_cons]
      omega
  have empty : ({} : Summary).total = 0 := rfl
  rw [ofEvents, fold, empty, Nat.zero_add]

end Summary

namespace Batch

/-- For every store and every order of the workers' turns: the reporter hears of each entry that
could not be read and then of each file, in order, and at the end once of the summary that is given
back, which counts the events of each kind. The books are balanced, so the writer is called once
for each file that is text and is changed by the rule sets, with its revised text, and for no
other; the event about such a file tells whether the call succeeded. To keep the log makes no
difference. -/
theorem drive_accounts {σ ρ : Type} (store : Store σ) (reporter : Reporter ρ)
    (sets : List RuleSet) (o : Options) (c : Candidates) {schedule : List Nat}
    (hturns : ∀ i < c.files.length, 2 ≤ schedule.count i) (s : σ) (r : ρ) :
    let done := drive store.logged reporter sets o (pool store.logged sets o schedule) c (s, []) r
    drive store reporter sets o (pool store sets o schedule) c s r =
        (done.1, done.2.1, done.2.2.1) ∧
      ∃ events ledgers,
        Balanced store sets o c.files s (turnsOf o schedule c.files.length) events ledgers
          done.2.2.2 ∧
        let all := c.unreadable.map Event.failed ++ events
        done.2.1 = reporter.finish done.1 (reported reporter all r) ∧
        done.1 = { changed := all.countP fun e => e.result = .changed
                   unchanged := all.countP fun e => e.result = .unchanged
                   failed := all.countP fun e => e.result.isFailed } ∧
        done.1.total = c.unreadable.length + c.files.length := by
  intro done
  obtain ⟨hplain, ledgers, hbalanced⟩ :=
    balanced_pool store sets o c.files s (two_le_count_turnsOf o hturns)
  let logged := pool store.logged sets o (turnsOf o schedule c.files.length) c.files (s, [])
  let all := c.unreadable.map Event.failed ++ logged.1
  have hdone : done = (.ofEvents all, reporter.finish (.ofEvents all) (reported reporter all r),
      logged.2) := by
    simp only [done, drive_eq, handling_pool, all, logged]
  rw [drive_eq, handling_pool, hplain, hdone]
  refine ⟨rfl, logged.1, ledgers, hbalanced, rfl, Summary.ofEvents_eq all, ?_⟩
  rw [Summary.total_ofEvents, List.length_append, List.length_map, hbalanced.events_length]

/-- A store whose writer succeeds and fails in turn, and workers who begin with the last file: one
file is found twice, one is not changed, one is no text and one is gone. -/
theorem drive_accounts_six :
    let store : Store Nat := {
      read := fun p _ =>
        if p = ⟨"none.ts"⟩ then .error .notFound
        else if p = ⟨"byte.ts"⟩ then .ok [0xFF]
        else if p = ⟨"y.ts"⟩ then .ok [0x79] else .ok [0x78]
      write := fun _ _ n => (if n % 2 = 0 then .ok () else .error .readOnly, n + 1) }
    let journal : Reporter (List Event × List Summary) :=
      ⟨fun e r => (r.1 ++ [e], r.2), fun s r => (r.1, r.2 ++ [s])⟩
    let sets : List RuleSet := [⟨"shorten", [.literal ['x'] []], none, none⟩]
    let c : Candidates := ⟨[⟨"a.ts"⟩, ⟨"b.ts"⟩, ⟨"byte.ts"⟩, ⟨"none.ts"⟩, ⟨"y.ts"⟩, ⟨"a.ts"⟩],
      [.read ⟨"lib"⟩ .nameTooLong]⟩
    let o : Options := { parallel := true }
    let schedule := [5, 0, 1, 5, 1, 0, 2, 3, 4, 4, 3, 2]
    let done := drive store.logged journal sets o (pool store.logged sets o schedule) c (0, [])
      ([], [])
    (∀ i < c.files.length, 2 ≤ schedule.count i) ∧ done.1 = ⟨2, 1, 4⟩ ∧
      done.2.1.2 = [⟨2, 1, 4⟩] ∧
      done.2.1.1.map Event.result = [.failed (.read ⟨"lib"⟩ .nameTooLong), .changed,
        .failed (.write ⟨"b.ts"⟩ .readOnly), .failed (.encoding ⟨"byte.ts"⟩ ⟨0, some 1⟩),
        .failed (.read ⟨"none.ts"⟩ .notFound), .unchanged, .changed] ∧
      done.2.2.2 = [⟨⟨"a.ts"⟩, [], .ok ()⟩, ⟨⟨"b.ts"⟩, [], .error .readOnly⟩,
        ⟨⟨"a.ts"⟩, [], .ok ()⟩] ∧
      drive store journal sets o (pool store sets o schedule) c 0 ([], []) =
        (done.1, done.2.1, done.2.2.1) ∧
      ∃ events ledgers, Balanced store sets o c.files 0 schedule events ledgers done.2.2.2 := by
  intro store journal sets c o schedule
  have hturns : ∀ i < c.files.length, 2 ≤ schedule.count i := by decide +kernel
  have main := drive_accounts store journal sets o c hturns 0 ([], [])
  obtain ⟨events, ledgers, hbalanced, -⟩ := main.2
  exact ⟨hturns, by decide +kernel, by decide +kernel, by decide +kernel, by decide +kernel, main.1,
    events, ledgers, hbalanced⟩

end Batch

end Codemod
