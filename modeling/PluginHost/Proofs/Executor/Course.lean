/-
# What the thread of the host has done

`Traced` says how the thread stands to what was put into its mailbox, with one case for each thing
that it can be about to do.  Between two jobs everything that was begun is over, and what was
written down is what `course` gives; inside a job the same holds of the jobs before it, and what is
left of it leads to its ending from the state that is there now (`Underway`).  Every step keeps
this (`Traced.step`).
-/
import PluginHost.Proofs.Executor.System

namespace PluginHost

variable {σ : Type}

/-- Whether a program completed, and the state that it left. -/
def Program.Ending.verdict (ending : Program.Ending σ) : Bool × σ :=
  (ending.completed, ending.state)

/-- The ending of a program that has handed over these jobs already. -/
def Program.Ending.behind (ending : Program.Ending σ) (handed : List (Program σ)) :
    Program.Ending σ :=
  { ending with posted := handed ++ ending.posted }

namespace Executor

/-- What was written down is what the jobs `earlier` have done, and what the jobs behind them have
handed over so far. -/
structure Books (init : σ) (e : Executor σ) (earlier : List (Job σ))
    (handed : List (List (Program σ))) : Prop where
  /-- These jobs have ended as they do when they are run one after another. -/
  ended : e.ended = (course init earlier).map Program.Ending.verdict
  /-- Every job has handed over what it does then. -/
  posts : ∀ number, postsOf number e.sent =
    (((course init earlier).map Program.Ending.posted ++ handed)[number]?).getD []
  /-- What a job hands over is put behind it. -/
  later : ∀ (place : Nat) (job : Job σ) (number : Nat), (jobs e.sent)[place]? = some job →
    job.origin = .inside number → number < place

/-- No job is under way. -/
structure Between (init : σ) (e : Executor σ) : Prop where
  /-- All jobs that were begun are over. -/
  books : Books init e e.begun []
  /-- The state is the one that they left. -/
  state : e.state = outcome init e.begun
  /-- Nobody holds on to it. -/
  holders : e.holders = 0

/-- A job is under way, with `program` and then `outer` left of it. -/
structure Underway (init : σ) (e : Executor σ) (program : Program σ) (outer : List (Program σ))
    (earlier : List (Job σ)) (job : Job σ) (handed : List (Program σ)) : Prop where
  /-- It is the last one that was begun. -/
  begun : e.begun = earlier ++ [job]
  /-- The ones before it are over. -/
  books : Books init e earlier [handed]
  /-- What is left of it leads to its ending. -/
  ending : job.program.run (outcome init earlier) =
    (resume e.state (program :: outer)).behind handed
  /-- Every program that is under way holds on to the state. -/
  holders : e.holders = outer.length + 1

/-- How the thread stands to what was put into its mailbox. -/
inductive Traced (report : σ → List Leak) (init : σ) (e : Executor σ) : Prop where
  /-- It waits. -/
  | idle (duty : e.duty = .idle) (between : Between init e) (available : e.available = true)
      (sent : e.sent = e.begun.map .run ++ e.mailbox)
  /-- It runs a job. -/
  | running {program outer earlier job handed} (duty : e.duty = .running program outer)
      (underway : Underway init e program outer earlier job handed)
      (available : e.available = true) (sent : e.sent = e.begun.map .run ++ e.mailbox)
  /-- It was told to stop. -/
  | closing (duty : e.duty = .closing) (between : Between init e)
      (available : e.available = true)
      (sent : e.sent = e.begun.map .run ++ .shutdown :: e.mailbox)
  /-- It has closed the mailbox. -/
  | draining (duty : e.duty = .draining) (between : Between init e)
      (available : e.available = true)
      (sent : e.sent = e.begun.map .run ++ .shutdown :: e.mailbox)
  /-- It has stopped. -/
  | stopped {dropped} (duty : e.duty = .stopped (report e.state)) (between : Between init e)
      (sent : e.sent = e.begun.map .run ++ .shutdown :: dropped)

variable {report : σ → List Leak} {init : σ} {e : Executor σ}

lemma traced_new (init : σ) : Traced report init (new init) := by
  refine .idle rfl ⟨⟨rfl, ?_, ?_⟩, rfl, rfl⟩ rfl rfl
  · intro number
    simp [new, postsOf, course]
  · intro place job number hjob
    simp [new, jobs] at hjob

lemma Books.length_ended {earlier : List (Job σ)} {handed : List (List (Program σ))}
    (h : Books init e earlier handed) : e.ended.length = earlier.length := by
  simp [h.ended]

section Send

variable {earlier : List (Job σ)} {handed : List (List (Program σ))} {item : Item σ}

/-- The books do not mind what comes from outside. -/
lemma Books.sent (h : Books init e earlier handed) {e' : Executor σ}
    (hsent : e'.sent = e.sent ++ [item]) (hended : e'.ended = e.ended)
    (houtside : ∀ job, item = .run job → job.origin = .outside) : Books init e' earlier handed := by
  refine ⟨hended ▸ h.ended, fun number => ?_, fun place job number hjob horigin => ?_⟩
  · rw [hsent, postsOf_append, h.posts]
    obtain ⟨⟨_ | n, program⟩⟩ | _ := item
    · simp [postsOf]
    · exact absurd (houtside _ rfl) (by simp)
    · simp [postsOf]
  · rw [hsent, jobs_append] at hjob
    rcases List.getElem?_append.symm.trans hjob with hjob
    split at hjob
    · exact h.later place job number hjob horigin
    · have hmem := List.mem_of_getElem? hjob
      obtain job' | _ := item
      · obtain rfl : job = job' := by simpa [jobs] using hmem
        exact absurd (horigin.symm.trans (houtside _ rfl)) (by simp)
      · simp [jobs] at hmem

/-- A job comes from outside, or the request to stop. -/
lemma Traced.send (h : Traced report init e)
    (houtside : ∀ job, item = .run job → job.origin = .outside) :
    Traced report init (e.send item).2 := by
  cases h with
  | idle duty between available sent =>
    rw [send_of_isOpen (by rw [duty]; rfl)]
    exact .idle duty ⟨between.books.sent rfl rfl houtside, between.state, between.holders⟩
      available (by simp [sent])
  | running duty underway available sent =>
    rw [send_of_isOpen (by rw [duty]; rfl)]
    exact .running duty ⟨underway.begun, underway.books.sent rfl rfl houtside, underway.ending,
      underway.holders⟩ available (by simp [sent])
  | closing duty between available sent =>
    rw [send_of_isOpen (by rw [duty]; rfl)]
    exact .closing duty ⟨between.books.sent rfl rfl houtside, between.state, between.holders⟩
      available (by simp [sent])
  | draining duty between available sent =>
    rw [send_of_not_isOpen (by rw [duty]; rfl)]
    exact .draining duty between available sent
  | stopped duty between sent =>
    rw [send_of_not_isOpen (by rw [duty]; rfl)]
    exact .stopped duty between sent

end Send

section Work

variable {program : Program σ} {outer : List (Program σ)} {earlier : List (Job σ)} {job : Job σ}
  {handed : List (Program σ)}

lemma Between.of_eq (h : Between init e) {e' : Executor σ} (hstate : e'.state = e.state)
    (hsent : e'.sent = e.sent) (hended : e'.ended = e.ended) (hbegun : e'.begun = e.begun)
    (hholders : e'.holders = e.holders) : Between init e' := by
  refine ⟨⟨?_, ?_, ?_⟩, ?_, hholders ▸ h.holders⟩
  · rw [hended, hbegun]
    exact h.books.ended
  · rw [hsent, hbegun]
    exact h.books.posts
  · rw [hsent]
    exact h.books.later
  · rw [hstate, hbegun]
    exact h.state

/-- A job begins when none is under way. -/
lemma Between.begin (h : Between init e) (job : Job σ) {e' : Executor σ}
    (hstate : e'.state = e.state) (hsent : e'.sent = e.sent) (hended : e'.ended = e.ended)
    (hbegun : e'.begun = e.begun ++ [job]) (hholders : e'.holders = e.holders + 1) :
    Underway init e' job.program [] e.begun job [] := by
  refine ⟨hbegun, ⟨hended ▸ h.books.ended, fun number => ?_, hsent ▸ h.books.later⟩, ?_, ?_⟩
  · rw [hsent, h.books.posts, List.append_nil, List.getElem?_append]
    split
    · rfl
    · next hnumber =>
      rw [List.getElem?_eq_none (Nat.le_of_not_lt hnumber)]
      cases hplace : number - ((course init e.begun).map Program.Ending.posted).length <;> simp
  · rw [resume_singleton, hstate, h.state]
    rfl
  · rw [hholders, h.holders]
    rfl

/-- A job is over: its ending is written down. -/
lemma Underway.finish (h : Underway init e program outer earlier job handed) {completed : Bool}
    (hending : job.program.run (outcome init earlier) = ⟨completed, e.state, handed⟩)
    {e' : Executor σ} (hstate : e'.state = e.state) (hsent : e'.sent = e.sent)
    (hended : e'.ended = e.ended ++ [(completed, e.state)]) (hbegun : e'.begun = e.begun)
    (hholders : e'.holders = 0) : Between init e' := by
  refine ⟨⟨?_, fun number => ?_, hsent ▸ h.books.later⟩, ?_, hholders⟩
  · rw [hended, hbegun, h.begun, course_concat, List.map_append, h.books.ended, hending]
    rfl
  · rw [hsent, hbegun, h.begun, h.books.posts, course_concat, hending]
    simp
  · rw [hstate, hbegun, h.begun, outcome_concat, hending]

/-- A job hands over another one. -/
lemma Underway.post {rest posted : Program σ}
    (h : Underway init e (.post posted rest) outer earlier job handed)
    (hsent : e.sent = e.begun.map .run ++ e.mailbox) {e' : Executor σ}
    (hstate : e'.state = e.state) (hended : e'.ended = e.ended) (hbegun : e'.begun = e.begun)
    (hholders : e'.holders = e.holders)
    (hsent' : e'.sent = e.sent ++ [.run ⟨.inside earlier.length, posted⟩]) :
    Underway init e' rest outer earlier job (handed ++ [posted]) := by
  refine ⟨hbegun ▸ h.begun, ⟨hended ▸ h.books.ended, fun number => ?_, ?_⟩, ?_, ?_⟩
  · rw [hsent', postsOf_append, h.books.posts]
    by_cases hnumber : earlier.length = number
    · subst hnumber
      simp [postsOf]
    · -- the others hand nothing over
      have hother : ∀ last : List (Program σ),
          (((course init earlier).map Program.Ending.posted ++ [last])[number]?).getD [] =
            (((course init earlier).map Program.Ending.posted)[number]?).getD [] := by
        intro last
        rw [List.getElem?_append]
        split
        · rfl
        · next hlt =>
          rw [List.getElem?_eq_none (Nat.le_of_not_lt hlt), List.getElem?_eq_none]
          rw [List.length_map, length_course] at hlt ⊢
          simp only [List.length_singleton]
          omega
      rw [hother, hother]
      simp [postsOf, hnumber]
  · intro place job' number hjob horigin
    rw [hsent', jobs_append, List.getElem?_append] at hjob
    split at hjob
    · exact h.books.later place job' number hjob horigin
    · next hplace =>
      -- the new job stands behind all jobs that were begun, and its own one is the last of them
      obtain rfl : job' = ⟨.inside earlier.length, posted⟩ := by
        simpa [jobs] using List.mem_of_getElem? hjob
      obtain rfl : earlier.length = number := by simpa using horigin
      have hlength : earlier.length + 1 ≤ (jobs e.sent).length := by
        rw [hsent, jobs_append, jobs_map_run, h.begun]
        simp
      omega
  · rw [h.ending, resume_post, hstate]
    simp [Program.Ending.behind, Program.Ending.after]
  · rw [hholders, h.holders]

/-- The thread goes on with a job. -/
lemma Underway.advance (h : Underway init e program outer earlier job handed)
    (hduty : e.duty = .running program outer) (available : e.available = true)
    (sent : e.sent = e.begun.map .run ++ e.mailbox) :
    Traced report init (e.advance outer program) := by
  have hbooks := h.books
  have hholders := h.holders
  cases program with
  | done =>
    cases outer with
    | nil =>
      have hending : job.program.run (outcome init earlier) = ⟨true, e.state, handed⟩ := by
        rw [h.ending, resume_done]
        simp [resume, Program.Ending.behind]
      have hfree : e.holders - 1 = 0 := by
        rw [hholders]
        rfl
      exact .idle rfl (h.finish hending rfl rfl rfl rfl hfree) available sent
    | cons rest outer =>
      have hleft : e.holders - 1 = outer.length + 1 := by
        rw [hholders]
        rfl
      refine .running rfl ⟨h.begun, ⟨hbooks.ended, hbooks.posts, hbooks.later⟩, ?_, hleft⟩ available
        sent
      rw [h.ending, resume_done]
      rfl
  | change act rest =>
    exact .running rfl ⟨h.begun, ⟨hbooks.ended, hbooks.posts, hbooks.later⟩, h.ending, hholders⟩
      available sent
  | execute inner rest =>
    rw [Executor.advance, enter, if_pos available]
    refine .running rfl ⟨h.begun, ⟨hbooks.ended, hbooks.posts, hbooks.later⟩, ?_, ?_⟩ available sent
    · rw [h.ending, resume_execute]
    · simp [hholders]
  | query inner use rest =>
    rw [Executor.advance, enter, if_pos available]
    refine .running rfl ⟨h.begun, ⟨hbooks.ended, hbooks.posts, hbooks.later⟩, ?_, ?_⟩ available sent
    · rw [h.ending, resume_query]
    · simp [hholders]
  | post posted rest =>
    rw [Executor.advance, send_of_isOpen (by rw [hduty]; rfl), hbooks.length_ended]
    exact .running rfl (h.post sent rfl rfl rfl rfl rfl) available (by simp [sent])
  | crash =>
    have hending : job.program.run (outcome init earlier) = ⟨false, e.state, handed⟩ := by
      rw [h.ending, resume_crash]
      simp [Program.Ending.behind]
    have hfree : e.holders - (outer.length + 1) = 0 := by
      rw [hholders]
      exact Nat.sub_self _
    exact .idle rfl (h.finish hending rfl rfl rfl rfl hfree) available sent

/-- The thread goes on. -/
lemma Traced.work (h : Traced report init e) : Traced report init (e.work report) := by
  cases h with
  | idle duty between available sent =>
    cases hmailbox : e.mailbox with
    | nil =>
      rw [work_waits duty hmailbox]
      exact .idle duty between available sent
    | cons item mailbox =>
      rw [hmailbox] at sent
      cases item with
      | run job =>
        rw [work_begins duty hmailbox available]
        exact .running rfl (between.begin job rfl rfl rfl rfl rfl) available (by simp [sent])
      | shutdown =>
        rw [work_obeys duty hmailbox]
        exact .closing rfl (between.of_eq rfl rfl rfl rfl rfl) available sent
  | running duty underway available sent =>
    rw [work_advances duty]
    exact underway.advance duty available sent
  | closing duty between available sent =>
    rw [work_closes duty]
    exact .draining rfl (between.of_eq rfl rfl rfl rfl rfl) available sent
  | draining duty between available sent =>
    rw [work_reports duty available between.holders]
    exact .stopped rfl (between.of_eq rfl rfl rfl rfl rfl) sent
  | stopped duty between sent =>
    rw [work_rests duty]
    exact .stopped duty between sent

end Work

lemma Traced.step (h : Traced report init e) (event : Event σ) :
    Traced report init (e.step report event) := by
  cases event with
  | submit request =>
    refine h.send fun job hjob => ?_
    obtain rfl := Item.run.inj hjob
    rfl
  | shutdown => exact h.send fun job hjob => by cases hjob
  | work => exact h.work

/-- Whatever happens, what was written down is what the jobs have done. -/
lemma Traced.run (h : Traced report init e) (events : List (Event σ)) :
    Traced report init (e.run report events) := by
  induction events generalizing e with
  | nil => exact h
  | cons event events ih => exact ih (h.step event)

end Executor
end PluginHost
