/-
# Order, progress and the end of the thread

What is put into the mailbox stays in its order, and the thread always gets on: what it has yet to
do until it is done with some items at the front of the mailbox (`ahead`) shrinks with every step
of its own, and no step of anybody else makes it grow.  So every job that was accepted before the
request to stop is begun and ends, whatever else happens meanwhile, and after the request the
thread stops.

What is accepted shows in the answers: as long as the mailbox is open everything that anybody asks
for is accepted and put behind what waits, and it is closed only when the request to stop has been
obeyed (`Receives`).  `Lawful` puts together what holds of the thread at any time, for a state of the
host that lends buffers; `lawful_run` is the result.
-/
import PluginHost.Proofs.Executor.Course
import PluginHost.Proofs.Executor.Inline
import PluginHost.Proofs.Ledger.Loans

namespace PluginHost

namespace Executor

variable {σ : Type} {report : σ → List Leak} {init : σ} {e : Executor σ}

/-- The steps of the thread until it is done with some items of the mailbox: those up to the
request to stop, and then none. -/
def cost : List (Item σ) → Nat
  | [] => 0
  | .run job :: items => job.program.weight + 1 + cost items
  | .shutdown :: _ => 3

/-- The steps of the thread until it is done with some programs. -/
def load : List (Program σ) → Nat
  | [] => 0
  | program :: outer => program.weight + load outer

/-- The steps of the thread until it is done with `items`, with which the mailbox began. -/
def ahead (items : List (Item σ)) (e : Executor σ) : Nat :=
  match e.duty with
  | .idle => cost (items.drop e.begun.length)
  | .running program outer =>
    if e.begun.length ≤ items.length then
      load (program :: outer) + cost (items.drop e.begun.length)
    else 0
  | .closing => if e.begun.length < items.length then 2 else 0
  | .draining => if e.begun.length < items.length then 1 else 0
  | .stopped _ => 0

section Progress

variable {program : Program σ} {outer : List (Program σ)} {items : List (Item σ)}

lemma weight_pos (program : Program σ) : 0 < program.weight := by
  cases program <;> simp [Program.weight]

lemma load_cons (program : Program σ) (outer : List (Program σ)) :
    load (program :: outer) = program.weight + load outer := rfl

/-- The thread goes on with a job, and has less left of it, or it ends the job. -/
lemma advance_load (program : Program σ) (outer : List (Program σ))
    (available : e.available = true) :
    (e.advance outer program).begun = e.begun ∧
      ((e.advance outer program).duty = .idle ∨
        ∃ program' outer', (e.advance outer program).duty = .running program' outer' ∧
          load (program' :: outer') < load (program :: outer)) := by
  cases program with
  | done =>
    cases outer with
    | nil => exact ⟨rfl, .inl rfl⟩
    | cons rest outer =>
      refine ⟨rfl, .inr ⟨rest, outer, rfl, ?_⟩⟩
      simp only [load_cons, Program.weight]
      omega
  | change act rest =>
    refine ⟨rfl, .inr ⟨rest, outer, rfl, ?_⟩⟩
    simp only [load_cons, Program.weight]
    omega
  | execute job rest =>
    rw [advance, enter, if_pos available]
    refine ⟨rfl, .inr ⟨job, rest :: outer, rfl, ?_⟩⟩
    simp only [load_cons, Program.weight]
    omega
  | query job use rest =>
    rw [advance, enter, if_pos available]
    refine ⟨rfl, .inr ⟨job, .change use rest :: outer, rfl, ?_⟩⟩
    simp only [load_cons, Program.weight]
    omega
  | post job rest =>
    have hbegun : ∀ item : Item σ, (e.send item).2.begun = e.begun := by
      intro item
      unfold send
      split <;> rfl
    refine ⟨hbegun _, .inr ⟨rest, outer, rfl, ?_⟩⟩
    simp only [load_cons, Program.weight]
    omega
  | crash => exact ⟨rfl, .inl rfl⟩

lemma drop_of_isPrefix {begun : List (Job σ)} {item : Item σ} {mailbox : List (Item σ)}
    (hitems : items <+: begun.map .run ++ item :: mailbox) (hlt : begun.length < items.length) :
    items.drop begun.length = item :: items.drop (begun.length + 1) := by
  obtain ⟨behind, hbehind⟩ := hitems
  have hitem : items[begun.length]? = some item := by
    have hplace : (items ++ behind)[begun.length]? = items[begun.length]? :=
      List.getElem?_append_left hlt
    rw [← hplace, hbehind, List.getElem?_append_right (by simp)]
    simp
  obtain ⟨hlt', hget⟩ := List.getElem?_eq_some_iff.1 hitem
  rw [← hget, List.getElem_cons_drop]

/-- Every step of the thread brings it nearer. -/
lemma Traced.ahead_work (h : Traced report init e) (hitems : items <+: e.sent) :
    ahead items (e.work report) ≤ ahead items e - 1 := by
  cases h with
  | idle duty between available sent =>
    have hahead : ahead items e = cost (items.drop e.begun.length) := by simp [ahead, duty]
    cases hmailbox : e.mailbox with
    | nil =>
      have hdrop : items.drop e.begun.length = [] := by
        rw [List.drop_eq_nil_iff]
        simpa [sent, hmailbox] using hitems.length_le
      rw [work_waits duty hmailbox, hahead, hdrop]
      exact Nat.zero_le _
    | cons item mailbox =>
      rw [sent, hmailbox] at hitems
      by_cases hlt : e.begun.length < items.length
      · have hdrop := drop_of_isPrefix hitems hlt
        cases item with
        | run job =>
          have hle : e.begun.length + 1 ≤ items.length := hlt
          rw [work_begins duty hmailbox available, hahead, hdrop]
          simp [ahead, cost, load, hle]
        | shutdown =>
          rw [work_obeys duty hmailbox, hahead, hdrop]
          simp [ahead, cost, hlt]
      · cases item with
        | run job =>
          have hgt : ¬ e.begun.length + 1 ≤ items.length := hlt
          rw [work_begins duty hmailbox available]
          simp [ahead, hgt]
        | shutdown =>
          rw [work_obeys duty hmailbox]
          simp [ahead, hlt]
  | @running program outer _ _ _ duty underway available sent =>
    obtain ⟨hbegun, hduty⟩ := advance_load program outer available
    have hpos := weight_pos program
    have hload := load_cons program outer
    rw [work_advances duty]
    obtain hidle | ⟨program', outer', hrunning, hless⟩ := hduty
    · by_cases hle : e.begun.length ≤ items.length
      · simp only [ahead, hidle, hbegun, duty, if_pos hle]
        omega
      · have hdrop : items.drop e.begun.length = [] := List.drop_eq_nil_of_le (by omega)
        simp [ahead, hidle, hbegun, hdrop, cost]
    · simp only [ahead, hrunning, hbegun, duty]
      split <;> omega
  | closing duty between available sent =>
    rw [work_closes duty]
    simp only [ahead, duty]
    split <;> omega
  | draining duty between available sent =>
    rw [work_reports duty available between.holders]
    exact Nat.zero_le _
  | stopped duty between sent =>
    rw [work_rests duty]
    simp [ahead, duty]

/-- What others do puts it no further away. -/
lemma ahead_send (items : List (Item σ)) (item : Item σ) :
    ahead items (e.send item).2 = ahead items e := by
  unfold send
  split <;> rfl

/-- What was put into the mailbox stays there, in its order, until it is taken. -/
lemma step_isPrefix (event : Event σ) : e.sent <+: (e.step report event).sent :=
  ⟨_, (e.sent_step report event).symm⟩

lemma run_isPrefix (events : List (Event σ)) : e.sent <+: (e.run report events).sent :=
  ⟨_, (e.sent_run report events).symm⟩

/-- However the steps of the thread lie among those of the others, each of them counts. -/
lemma Traced.ahead_run (h : Traced report init e) (hitems : items <+: e.sent)
    (events : List (Event σ)) :
    ahead items (e.run report events) ≤ ahead items e - events.countP Event.isWork := by
  induction events generalizing e with
  | nil => exact Nat.le_refl _
  | cons event events ih =>
    have hlater := ih (h.step event) (hitems.trans (step_isPrefix event))
    rw [run_cons]
    cases event with
    | submit request =>
      have hsame : ahead items (e.step report (.submit request)) = ahead items e :=
        ahead_send items _
      rw [List.countP_cons_of_neg (by simp [Event.isWork])]
      omega
    | shutdown =>
      have hsame : ahead items (e.step report .shutdown) = ahead items e := ahead_send items _
      rw [List.countP_cons_of_neg (by simp [Event.isWork])]
      omega
    | work =>
      have hless : ahead items (e.step report .work) ≤ ahead items e - 1 := h.ahead_work hitems
      rw [List.countP_cons_of_pos rfl]
      omega

end Progress

section Timely

variable {items items' : List (Item σ)}

lemma timely_isPrefix (h : items <+: items') : timely items <+: timely items' := by
  obtain ⟨behind, rfl⟩ := h
  induction items with
  | nil => exact List.nil_prefix
  | cons item items ih =>
    cases item with
    | run job => exact List.prefix_cons_inj job |>.2 ih
    | shutdown => exact List.prefix_rfl

lemma timely_run (begun : List (Job σ)) : timely (begun.map .run) = begun := by
  simpa [timely] using timely_map_run [] begun

lemma timely_run_shutdown (begun : List (Job σ)) (behind : List (Item σ)) :
    timely (begun.map .run ++ .shutdown :: behind) = begun := by
  rw [timely_map_run]
  simp [timely]

lemma length_timely_le (items : List (Item σ)) : (timely items).length ≤ items.length := by
  induction items with
  | nil => exact Nat.le_refl 0
  | cons item items ih =>
    cases item with
    | run job => exact Nat.succ_le_succ ih
    | shutdown => exact Nat.zero_le _

/-- Items that were taken, and the request to stop not among them, are jobs that were begun. -/
lemma timely_of_begun {begun : List (Job σ)} {sent rest : List (Item σ)}
    (hitems : items <+: sent) (hsent : sent = begun.map .run ++ rest)
    (hshort : items.length ≤ begun.length) : timely items <+: begun ∧ .shutdown ∉ items := by
  have hprefix : items <+: begun.map .run :=
    List.prefix_of_prefix_length_le hitems (hsent ▸ List.prefix_append _ _) (by simpa using hshort)
  refine ⟨?_, fun hmem => by simpa using hprefix.subset hmem⟩
  have htimely := timely_isPrefix hprefix
  rwa [timely_run] at htimely

end Timely

/-- Items that the thread has nothing more to do for are over, those that were in time. -/
lemma Traced.over_of_ahead (h : Traced report init e) {items : List (Item σ)}
    (hitems : items <+: e.sent) (hahead : ahead items e = 0) :
    timely items <+: e.begun ∧ (timely items).length ≤ e.ended.length ∧
      (.shutdown ∈ items → ∃ leaks, e.duty = .stopped leaks) := by
  have hle := length_timely_le items
  have hquiet : Between init e → items.length ≤ e.begun.length →
      (∃ rest, e.sent = e.begun.map .run ++ rest) →
      timely items <+: e.begun ∧ (timely items).length ≤ e.ended.length ∧
        (.shutdown ∈ items → ∃ leaks, e.duty = .stopped leaks) := by
    rintro between hshort ⟨rest, hsent⟩
    obtain ⟨hbegun, hno⟩ := timely_of_begun hitems hsent hshort
    refine ⟨hbegun, ?_, fun hmem => absurd hmem hno⟩
    rw [between.books.length_ended]
    exact hle.trans hshort
  cases h with
  | idle duty between available sent =>
    refine hquiet between ?_ ⟨_, sent⟩
    simp only [ahead, duty] at hahead
    cases hdrop : items.drop e.begun.length with
    | nil => exact List.drop_eq_nil_iff.1 hdrop
    | cons item items =>
      rw [hdrop] at hahead
      cases item <;> simp [cost] at hahead
  | @running program outer earlier job _ duty underway available sent =>
    have hshort : items.length < e.begun.length := by
      have hpos := weight_pos program
      have hload := load_cons program outer
      simp only [ahead, duty] at hahead
      by_contra hlong
      rw [if_pos (Nat.le_of_not_lt hlong)] at hahead
      omega
    obtain ⟨hbegun, hno⟩ := timely_of_begun hitems sent hshort.le
    refine ⟨hbegun, ?_, fun hmem => absurd hmem hno⟩
    have hlast := congrArg List.length underway.begun
    rw [List.length_append, List.length_singleton] at hlast
    rw [underway.books.length_ended]
    omega
  | closing duty between available sent | draining duty between available sent =>
    refine hquiet between ?_ ⟨_, sent⟩
    simp only [ahead, duty] at hahead
    split at hahead <;> omega
  | stopped duty between sent =>
    have hbegun : timely items <+: e.begun := by
      have htimely := timely_isPrefix hitems
      rwa [sent, timely_run_shutdown] at htimely
    refine ⟨hbegun, ?_, fun _ => ⟨_, duty⟩⟩
    rw [between.books.length_ended]
    exact hbegun.length_le

/-- After enough steps of the thread, and whatever steps of others, what was accepted is over. -/
lemma Traced.exists_over (h : Traced report init e) :
    ∃ steps, ∀ events : List (Event σ), steps ≤ events.countP Event.isWork →
      timely e.sent <+: (e.run report events).begun ∧
        (timely e.sent).length ≤ (e.run report events).ended.length ∧
        (.shutdown ∈ e.sent → ∃ leaks, (e.run report events).duty = .stopped leaks) := by
  refine ⟨ahead e.sent e, fun events hevents => ?_⟩
  refine (h.run events).over_of_ahead (run_isPrefix events) ?_
  have := h.ahead_run List.prefix_rfl events
  omega

/-- The mailbox is closed only when the request to stop has been obeyed. -/
lemma Traced.of_not_isOpen (h : Traced report init e) (hclosed : e.duty.isOpen = false) :
    .shutdown ∈ e.sent ∧ e.begun = timely e.sent ∧ e.ended.length = e.begun.length := by
  cases h with
  | idle duty | running duty | closing duty =>
    rw [duty] at hclosed
    cases hclosed
  | draining duty between _ sent | stopped duty between sent =>
    refine ⟨?_, ?_, between.books.length_ended⟩
    · simp [sent]
    · rw [sent, timely_run_shutdown]

lemma Traced.sent_of_serving (h : Traced report init e)
    (hserving : e.duty = .idle ∨ ∃ program outer, e.duty = .running program outer) :
    e.sent = e.begun.map .run ++ e.mailbox := by
  cases h with
  | idle _ _ _ sent | running _ _ _ sent => exact sent
  | closing duty | draining duty | stopped duty => simp [duty] at hserving

lemma Traced.sent_of_told (h : Traced report init e)
    (htold : e.duty = .closing ∨ e.duty = .draining) :
    e.sent = e.begun.map .run ++ .shutdown :: e.mailbox := by
  cases h with
  | closing _ _ _ sent | draining _ _ _ sent => exact sent
  | idle duty | running duty | stopped duty => simp [duty] at htold

lemma Traced.begun_isPrefix (h : Traced report init e) : e.begun <+: timely e.sent := by
  cases h with
  | idle _ _ _ sent | running _ _ _ sent | closing _ _ _ sent | draining _ _ _ sent
  | stopped _ _ sent =>
    rw [sent, timely_map_run]
    exact List.prefix_append _ _

end Executor

/-- The state of the host: what it makes use of, and what is lent. -/
structure HostState (γ : Type) where
  /-- What the host makes use of. -/
  context : γ
  /-- What is lent. -/
  ledger : Ledger
  /-- The entries of the ledger fit together. -/
  consistent : ledger.Consistent

namespace HostState

variable {γ : Type}

/-- What is reported when the host has stopped. -/
def leaks (s : HostState γ) : List Leak := s.ledger.close.1

/-- The report lists everything that is lent, and each of it once. -/
lemma leaks_perm (s : HostState γ) :
    s.leaks.Perm (s.ledger.loans.map Loan.leak) ∧ s.ledger.loans.Nodup ∧
      ∀ loan, loan ∈ s.ledger.loans ↔ s.ledger.loan? loan.buffer.address = some loan :=
  ⟨s.ledger.close_perm, s.consistent.loans_nodup, fun _ => s.consistent.mem_loans⟩

end HostState

namespace Executor

variable {γ : Type}

/-- What holds of the mailbox after some steps, when the thread began with the state `init`. -/
structure Receives (init : HostState γ) (events : List (Event (HostState γ)))
    (e : Executor (HostState γ)) : Prop where
  /-- What was put into it is what was accepted, going by the answers. -/
  sent : e.sent = accepted HostState.leaks (new init) events
  /-- As long as it is open, whatever another thread asks for is accepted, and put behind what
  waits. -/
  accepts : e.duty.isOpen = true → ∀ job, ∀ request ∈ [.post job, .execute job, .query job],
    e.submit request =
      (.ok (),
        { e with
          mailbox := e.mailbox ++ [.run ⟨.outside, job⟩]
          sent := e.sent ++ [.run ⟨.outside, job⟩] })
  /-- So is the request to stop. -/
  stops : e.duty.isOpen = true →
    e.send .shutdown =
      (.ok (), { e with mailbox := e.mailbox ++ [.shutdown], sent := e.sent ++ [.shutdown] })
  /-- Until the request to stop is obeyed, what was accepted was begun or waits. -/
  serving : e.duty = .idle ∨ (∃ program outer, e.duty = .running program outer) →
    e.sent = e.begun.map .run ++ e.mailbox
  /-- When it has been obeyed, what stood in front of it was begun, and what stands behind it is
  left. -/
  told : e.duty = .closing ∨ e.duty = .draining →
    e.sent = e.begun.map .run ++ .shutdown :: e.mailbox
  /-- Only after that the mailbox is closed, with all jobs over that were accepted in time; then
  everything is refused. -/
  closed : e.duty.isOpen = false →
    .shutdown ∈ e.sent ∧ e.begun = timely e.sent ∧ e.ended.length = e.begun.length ∧
      ∀ request, e.submit request = (.error .closed, e)

/-- What holds of the thread after some steps, when it began with the state `init`. -/
structure Lawful (init : HostState γ) (events : List (Event (HostState γ)))
    (e : Executor (HostState γ)) : Prop extends Receives init events e where
  /-- The jobs that were accepted before the request to stop are begun in their order, each of
  them once, and no others. -/
  begun : e.begun <+: timely e.sent
  /-- At most one job is under way. -/
  one_by_one : e.ended.length ≤ e.begun.length ∧ e.begun.length ≤ e.ended.length + 1
  /-- The jobs have ended as they do when each of them is run in one go, with what it executes and
  queries inside, in the state that the one before it left, be it after a crash. -/
  ended : e.ended = (course init (e.begun.take e.ended.length)).map Program.Ending.verdict
  /-- Inside a job the state is one from which the rest of the job leads to the same ending. -/
  underway : ∀ program outer, e.duty = .running program outer →
    ∃ earlier job, e.begun = earlier ++ [job] ∧ e.ended.length = earlier.length ∧
      job.program.run (outcome init earlier) =
        (resume e.state (program :: outer)).behind (postsOf earlier.length e.sent)
  /-- What is executed inside a job runs through at once, on the state that is there. -/
  executes : ∀ job rest outer, e.duty = .running (.execute job rest) outer →
    RunsInside HostState.leaks e job rest outer
  /-- So does what is queried inside a job, and then the answer is used. -/
  queries : ∀ job use rest outer, e.duty = .running (.query job use rest) outer →
    RunsInside HostState.leaks e job (.change use rest) outer
  /-- Outside of jobs the state is the one that the jobs left. -/
  between : (∀ program outer, e.duty ≠ .running program outer) →
    e.ended.length = e.begun.length ∧ e.state = outcome init e.begun
  /-- What a job that is over has handed over was accepted. -/
  posts : ∀ number ending, (course init (e.begun.take e.ended.length))[number]? = some ending →
    postsOf number e.sent = ending.posted
  /-- What a job hands over stands behind it. -/
  later : ∀ (place : Nat) (job : Job (HostState γ)) (number : Nat),
    (jobs e.sent)[place]? = some job → job.origin = .inside number → number < place
  /-- After enough further steps of the thread, and whatever steps of others, the jobs that were
  accepted before the request to stop are over, and after the request the thread has stopped. -/
  progress : ∃ steps, ∀ events : List (Event (HostState γ)),
    steps ≤ events.countP Event.isWork →
      timely e.sent <+: (e.run HostState.leaks events).begun ∧
        (timely e.sent).length ≤ (e.run HostState.leaks events).ended.length ∧
        (.shutdown ∈ e.sent → ∃ leaks, (e.run HostState.leaks events).duty = .stopped leaks)
  /-- When the thread has stopped, all jobs that were accepted before the request are over, the
  report lists exactly what is lent in the state that they left, and everything that other threads
  ask for is refused. -/
  stopped : ∀ leaks, e.duty = .stopped leaks →
    e.begun = timely e.sent ∧ e.ended.length = e.begun.length ∧
      e.state = outcome init (timely e.sent) ∧
      leaks.Perm (e.state.ledger.loans.map Loan.leak) ∧ e.state.ledger.loans.Nodup ∧
      (∀ loan, loan ∈ e.state.ledger.loans ↔
        e.state.ledger.loan? loan.buffer.address = some loan) ∧
      ∀ request, e.submit request = (.error .closed, e)

variable {init : HostState γ} {events : List (Event (HostState γ))} {e : Executor (HostState γ)}

lemma Traced.receives (h : Traced HostState.leaks init e)
    (hsent : e.sent = accepted HostState.leaks (new init) events) : Receives init events e where
  sent := hsent
  accepts := by
    intro hopen job request hrequest
    simp only [List.mem_cons, List.not_mem_nil, or_false] at hrequest
    rcases hrequest with rfl | rfl | rfl <;> exact send_of_isOpen hopen _
  stops hopen := send_of_isOpen hopen _
  serving := h.sent_of_serving
  told := h.sent_of_told
  closed hclosed :=
    have ⟨hshutdown, hbegun, hended⟩ := h.of_not_isOpen hclosed
    ⟨hshutdown, hbegun, hended, fun _ => send_of_not_isOpen hclosed _⟩

/-- It holds when no job is under way. -/
lemma Between.lawful (between : Between init e) (h : Traced HostState.leaks init e)
    (hreceives : Receives init events e)
    (hduty : ∀ program outer, e.duty ≠ .running program outer)
    (hstopped : ∀ leaks, e.duty = .stopped leaks → leaks = e.state.leaks) :
    Lawful init events e := by
  have hlength := between.books.length_ended
  have htake : e.begun.take e.ended.length = e.begun := by
    rw [hlength, List.take_length]
  refine ⟨hreceives, h.begun_isPrefix, by omega, ?_,
    fun program outer h => absurd h (hduty program outer),
    fun job rest outer h => absurd h (hduty _ outer),
    fun job use rest outer h => absurd h (hduty _ outer), fun _ => ⟨hlength, between.state⟩,
    fun number ending hending => ?_, between.books.later, h.exists_over, fun leaks hleaks => ?_⟩
  · rw [htake]
    exact between.books.ended
  · rw [htake] at hending
    rw [between.books.posts]
    simp [hending]
  · obtain rfl := hstopped leaks hleaks
    obtain ⟨-, htimely, hended, hrefused⟩ :=
      hreceives.closed (by simp [hleaks, Duty.isOpen])
    exact ⟨htimely, hended, htimely ▸ between.state, e.state.leaks_perm.1,
      e.state.leaks_perm.2.1, e.state.leaks_perm.2.2, hrefused⟩

/-- It holds inside a job. -/
lemma Underway.lawful {program : Program (HostState γ)} {outer : List (Program (HostState γ))}
    {earlier : List (Job (HostState γ))} {job : Job (HostState γ)}
    {handed : List (Program (HostState γ))}
    (underway : Underway init e program outer earlier job handed)
    (h : Traced HostState.leaks init e) (hreceives : Receives init events e)
    (hduty : e.duty = .running program outer) (available : e.available = true) :
    Lawful init events e := by
  have hlength := underway.books.length_ended
  have hlast := congrArg List.length underway.begun
  rw [List.length_append, List.length_singleton] at hlast
  have htake : e.begun.take e.ended.length = earlier := by
    rw [hlength, underway.begun, List.take_left]
  have hhanded : postsOf earlier.length e.sent = handed := by
    rw [underway.books.posts]
    simp
  refine ⟨hreceives, h.begun_isPrefix, by omega, ?_, ?_,
    fun job rest outer h => (enters_execute job rest).runsInside h available,
    fun job use rest outer h => (enters_query job use rest).runsInside h available,
    fun hidle => absurd hduty (hidle program outer), fun number ending hending => ?_,
    underway.books.later, h.exists_over, by simp [hduty]⟩
  · rw [htake]
    exact underway.books.ended
  · intro program' outer' hduty'
    rw [hduty] at hduty'
    obtain ⟨rfl, rfl⟩ := Duty.running.inj hduty'
    exact ⟨earlier, job, underway.begun, hlength, hhanded ▸ underway.ending⟩
  · rw [htake] at hending
    have hnumber : number < earlier.length := by
      simpa using (List.getElem?_eq_some_iff.1 hending).1
    rw [underway.books.posts, List.getElem?_append_left (by simpa using hnumber)]
    simp [hending]

/-- **The thread of the host does the jobs that it accepts in their order**, one at a time and each
of them in one go, up to the request to stop, and then reports what is still lent.  What it accepts
shows in its answers, and until it has obeyed the request to stop it accepts everything. -/
theorem lawful_run (init : HostState γ) (events : List (Event (HostState γ))) :
    Lawful init events ((new init).run HostState.leaks events) := by
  have h : Traced HostState.leaks init ((new init).run HostState.leaks events) :=
    (traced_new init).run events
  have hreceives : Receives init events ((new init).run HostState.leaks events) :=
    h.receives ((new init).sent_run HostState.leaks events)
  generalize (new init).run HostState.leaks events = e at h hreceives
  cases hcase : h with
  | idle duty between available sent | closing duty between available sent
  | draining duty between available sent =>
    exact between.lawful h hreceives (by simp [duty]) (by simp [duty])
  | running duty underway available sent => exact underway.lawful h hreceives duty available
  | stopped duty between sent =>
    refine between.lawful h hreceives (by simp [duty]) fun leaks hleaks => ?_
    rw [duty] at hleaks
    exact (Duty.stopped.inj hleaks).symm

section Rehearsal

/-- A host that makes use of a list of numbers, which is empty. -/
def blank : HostState (List Nat) := ⟨[], .empty, Ledger.consistent_empty⟩

/-- Notes a number. -/
def note (number : Nat) (rest : Program (HostState (List Nat))) : Program (HostState (List Nat)) :=
  .change (fun s => { s with context := s.context ++ [number] }) rest

/-- Lends a name. -/
def lendName (rest : Program (HostState (List Nat))) : Program (HostState (List Nat)) :=
  .change (fun s => ⟨s.context, (s.ledger.lend (.allocation 0) (.text [97]) 3 "get_user_name").2,
    s.consistent.lend _ _ _ _⟩) rest

/-- Two levels inside the first job there is a crash.  The second one notes and lends inside, and
hands over another one before that.  Then somebody tells the thread to stop, and one more job comes
too late to be begun. -/
def rehearsal : List (Event (HostState (List Nat))) :=
  let first := note 1 (.execute (note 2 (.query (note 3 .crash) id (note 4 .done))) (note 5 .done))
  let second := note 6 (.post (note 9 .done) (.execute (.query (lendName (note 7 .done)) id .done)
    (note 8 .done)))
  [.submit (.post first), .submit (.execute second)] ++ List.replicate 20 .work ++
    [.shutdown, .submit (.query (note 10 .done))] ++ List.replicate 10 .work

/-- The crash ends the first job with what is around it and nothing else; all that was accepted in
time was done in its order, and the name is reported. -/
theorem lawful_run_rehearsal :
    let e := (new blank).run HostState.leaks rehearsal
    Lawful blank rehearsal e ∧ e.sent.length = 5 ∧ (timely e.sent).length = 3 ∧
    e.ended.map (fun ending => (ending.1, ending.2.context)) =
      [(false, [1, 2, 3]), (true, [1, 2, 3, 6, 7, 8]), (true, [1, 2, 3, 6, 7, 8, 9])] ∧
    e.duty = .stopped [⟨3, "get_user_name", "text"⟩] ∧
    e.submit (.post .done) = (.error .closed, e) := by
  intro e
  have h : Lawful blank rehearsal e := lawful_run blank rehearsal
  have hduty : e.duty = .stopped ([⟨3, "get_user_name", "text"⟩].mergeSort Leak.le) := rfl
  rw [List.mergeSort_singleton] at hduty
  obtain ⟨-, -, -, -, -, -, hrefused⟩ := h.stopped _ hduty
  exact ⟨h, rfl, rfl, rfl, hduty, hrefused _⟩

end Rehearsal

end Executor
end PluginHost
