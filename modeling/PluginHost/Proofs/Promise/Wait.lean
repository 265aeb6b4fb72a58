/-
# Waiting with a time bound

While the caller waits, others store results and cancel, as often and whenever they like.  What
happens to the promise in such a wait is a list of incidents (`Handover.history`), which is read off
the moves: an incident is a move that reaches the promise, or by which the caller finds it empty.

What the caller does by itself is always a beginning of one and the same sequence: the bound passes
without a result, it cancels, it finds nothing again, and it stores its timeout.  It stops after the
second of these if there is a result then, and it does none of them if there is one before the bound
passes.  What it returns in the end is what was stored first, its own timeout being one of the
things that are stored (`Handover.waited_run`).
-/
import Mathlib.Data.List.Induction
import Mathlib.Tactic.Lemma
import PluginHost.Promise.Handover

namespace PluginHost

namespace Handover

variable {α : Type}

/-! ## Incidents -/

/-- What happens to the promise of a wait. -/
inductive Incident (α : Type) where
  /-- Somebody but the caller stores a result. -/
  | stored (result : CallResult α)
  /-- Somebody but the caller cancels. -/
  | cancelled
  /-- The time bound passes, and there is no result. -/
  | expired
  /-- The caller cancels. -/
  | gaveUp
  /-- The caller looks again, and there is no result. -/
  | missed
  /-- The caller stores its timeout. -/
  | timedOut
deriving DecidableEq

namespace Incident

/-- The result that is to be stored. -/
def written? : Incident α → Option (CallResult α)
  | stored result => some result
  | timedOut => some (.error .apiRequestTimeout)
  | cancelled | expired | gaveUp | missed => none

/-- Whether the promise is cancelled. -/
def isCancel : Incident α → Bool
  | cancelled | gaveUp => true
  | stored _ | expired | missed | timedOut => false

/-- Whether it is the caller by whom it happens. -/
def isOwn : Incident α → Bool
  | expired | gaveUp | missed | timedOut => true
  | stored _ | cancelled => false

/-- Whether the caller finds the promise empty. -/
def isEmptyHanded : Incident α → Bool
  | expired | missed => true
  | stored _ | cancelled | gaveUp | timedOut => false

end Incident

/-- What happens to the promise by a move, if anything does. -/
def incident? (h : Handover α) : Move α → Option (Incident α)
  | .store result => some (.stored result)
  | .cancel => if h.held then none else some .cancelled
  | .hold | .release => none
  | .expire =>
    match h.waiter with
    | .waiting => if h.promise.isReady then none else some .expired
    | _ => none
  | .proceed =>
    match h.waiter with
    | .expired => if h.held then none else some .gaveUp
    | .rechecking => if h.promise.isReady then none else some .missed
    | .abandoning => some .timedOut
    | .waiting | .taking | .returned _ => none

/-- What happens to the promise in an interleaving. -/
def history (h : Handover α) : List (Move α) → List (Incident α)
  | [] => []
  | move :: moves => (h.incident? move).toList ++ history (h.step move) moves

/-- What is to be stored, the first result in front. -/
def writes (events : List (Incident α)) : List (CallResult α) :=
  events.filterMap Incident.written?

/-- What the caller does by itself until it has stored its timeout. -/
def course : List (Incident α) := [.expired, .gaveUp, .missed, .timedOut]

lemma run_concat (h : Handover α) (moves : List (Move α)) (move : Move α) :
    h.run (moves ++ [move]) = (h.run moves).step move := by
  simp [run]

lemma history_concat (h : Handover α) (moves : List (Move α)) (move : Move α) :
    h.history (moves ++ [move]) = h.history moves ++ ((h.run moves).incident? move).toList := by
  induction moves generalizing h with
  | nil => simp [history, run]
  | cons first moves ih =>
    rw [List.cons_append, history, history, ih, List.append_assoc]
    rfl

/-- What a move can do to a wait, and what happens by it. -/
inductive Turn (h : Handover α) : List (Incident α) → Handover α → Prop
  /-- Nothing, but maybe the flag is taken hold of, or let go. -/
  | idle (held : Bool) : Turn h [] { h with held := held }
  /-- Somebody stores a result. -/
  | store (result : CallResult α) :
      Turn h [.stored result] { h with promise := h.promise.fulfil result }
  /-- Somebody cancels. -/
  | cancel : Turn h [.cancelled] { h with promise := h.promise.cancel }
  /-- The caller finds a result. -/
  | find (hwaiter : h.waiter = .waiting ∨ h.waiter = .rechecking)
      (hslot : h.promise.slot.isSome) : Turn h [] { h with waiter := .taking }
  /-- The bound passes without a result. -/
  | expire (hwaiter : h.waiter = .waiting) (hslot : h.promise.slot = none) :
      Turn h [.expired] { h with waiter := .expired }
  /-- The caller cancels. -/
  | giveUp (hwaiter : h.waiter = .expired) :
      Turn h [.gaveUp] { h with promise := h.promise.cancel, waiter := .rechecking }
  /-- The caller finds no result again. -/
  | miss (hwaiter : h.waiter = .rechecking) (hslot : h.promise.slot = none) :
      Turn h [.missed] { h with waiter := .abandoning }
  /-- The caller stores its timeout. -/
  | timeOut (hwaiter : h.waiter = .abandoning) :
      Turn h [.timedOut]
        { h with promise := h.promise.fulfil (.error .apiRequestTimeout), waiter := .taking }
  /-- The caller takes the result, and returns it. -/
  | take (hwaiter : h.waiter = .taking) {result : CallResult α}
      (hslot : h.promise.slot = some result) :
      Turn h [] { h with promise := { h.promise with slot := none }, waiter := .returned result }

lemma turn_proceed (h : Handover α) : h.Turn (h.incident? .proceed).toList h.proceed := by
  obtain ⟨⟨cancelled, slot⟩, held, waiter⟩ := h
  cases waiter with
  | waiting =>
    cases slot with
    | none => exact .idle held
    | some result => exact .find (.inl rfl) rfl
  | expired =>
    cases held with
    | true => exact .idle true
    | false => exact .giveUp rfl
  | rechecking =>
    cases slot with
    | none => exact .miss rfl rfl
    | some result => exact .find (.inr rfl) rfl
  | abandoning => exact .timeOut rfl
  | taking =>
    cases slot with
    | none => exact .idle held
    | some result => exact .take rfl rfl
  | returned result => exact .idle held

lemma turn_expire (h : Handover α) : h.Turn (h.incident? .expire).toList h.expire := by
  obtain ⟨⟨cancelled, slot⟩, held, waiter⟩ := h
  cases waiter with
  | waiting =>
    cases slot with
    | none => exact .expire rfl rfl
    | some result => exact .find (.inl rfl) rfl
  | expired | rechecking | abandoning | taking | returned => exact .idle held

lemma turn_step (h : Handover α) (move : Move α) :
    h.Turn (h.incident? move).toList (h.step move) := by
  cases move with
  | proceed => exact h.turn_proceed
  | expire => exact h.turn_expire
  | store result => exact .store result
  | hold => exact .idle true
  | release => exact .idle false
  | cancel =>
    obtain ⟨promise, held, waiter⟩ := h
    cases held with
    | true => exact .idle true
    | false => exact .cancel

/-! ## What is true all the while -/

/-- How much of its course the caller has behind it. -/
def Behind : Waiter α → List (Incident α) → Prop
  | .waiting, own => own = []
  | .expired, own => own = [.expired]
  | .rechecking, own => own = [.expired, .gaveUp]
  | .abandoning, own => own = [.expired, .gaveUp, .missed]
  | .taking, own | .returned _, own => own = [] ∨ own = [.expired, .gaveUp] ∨ own = course

/-- Whenever the caller has found the promise empty, nothing had been stored. -/
def EmptyHanded (events : List (Incident α)) : Prop :=
  ∀ before event after, events = before ++ event :: after → event.isEmptyHanded = true →
    writes before = []

/-- The state of a wait in which these incidents have happened. -/
structure Told (events : List (Incident α)) (h : Handover α) : Prop where
  /-- What was stored first is returned, or still there. -/
  first : h.result?.or h.promise.slot = (writes events).head?
  /-- A caller that is about to take the result has one to take. -/
  ready : h.waiter = .taking → h.promise.slot.isSome
  /-- The caller has come so far. -/
  behind : Behind h.waiter (events.filter Incident.isOwn)
  /-- It was right about the promise. -/
  empty : EmptyHanded events
  /-- The flag tells whether anybody has cancelled. -/
  cancelled : h.promise.cancelled = events.any Incident.isCancel

variable {events more : List (Incident α)} {h h' : Handover α}

lemma emptyHanded_nil : EmptyHanded ([] : List (Incident α)) := by
  intro before event after heq
  exact absurd heq (by simp)

lemma EmptyHanded.concat (hempty : EmptyHanded events) {event : Incident α}
    (hevent : event.isEmptyHanded = true → writes events = []) :
    EmptyHanded (events ++ [event]) := by
  intro before event' after heq hevent'
  obtain rfl | ⟨after, last, rfl⟩ := List.eq_nil_or_concat after
  · obtain ⟨rfl, hlast⟩ := List.append_inj' heq rfl
    obtain rfl : event = event' := by simpa using hlast
    exact hevent hevent'
  · have heq' : events ++ [event] = (before ++ event' :: after) ++ [last] := by simpa using heq
    exact hempty before event' after (List.append_inj' heq' rfl).1 hevent'

namespace Turn

/-- Nothing takes the place of the first result, and returning it takes it out of the slot. -/
lemma first_eq (hturn : h.Turn more h') :
    h'.result?.or h'.promise.slot = (h.result?.or h.promise.slot).or (writes more).head? := by
  obtain ⟨⟨cancelled, slot⟩, held, waiter⟩ := h
  cases hturn with
  | idle | cancel => simp [writes, Incident.written?, result?, Promise.cancel]
  | store result => simp [writes, Incident.written?, result?]
  | find hwaiter hslot =>
    obtain rfl | rfl : waiter = .waiting ∨ waiter = .rechecking := hwaiter
    · simp [writes, result?]
    · simp [writes, result?]
  | expire hwaiter hslot | miss hwaiter hslot =>
    obtain rfl := hwaiter
    simp [writes, Incident.written?, result?]
  | giveUp hwaiter =>
    obtain rfl := hwaiter
    simp [writes, Incident.written?, result?, Promise.cancel]
  | timeOut hwaiter =>
    obtain rfl := hwaiter
    simp [writes, Incident.written?, result?]
  | take hwaiter hslot =>
    obtain rfl := hwaiter
    obtain rfl := hslot
    simp [writes, result?]

lemma ready (hturn : h.Turn more h') (hready : h.waiter = .taking → h.promise.slot.isSome) :
    h'.waiter = .taking → h'.promise.slot.isSome := by
  cases hturn with
  | idle | cancel => exact hready
  | find hwaiter hslot => exact fun _ => hslot
  | store | timeOut => exact fun _ => by simp
  | expire | giveUp | miss | take => nofun

lemma behind {own : List (Incident α)} (hturn : h.Turn more h') (hbehind : Behind h.waiter own) :
    Behind h'.waiter (own ++ more.filter Incident.isOwn) := by
  obtain ⟨promise, held, waiter⟩ := h
  cases hturn with
  | idle | store | cancel => simpa [Incident.isOwn] using hbehind
  | find hwaiter hslot =>
    obtain rfl | rfl : waiter = .waiting ∨ waiter = .rechecking := hwaiter
    · obtain rfl : own = [] := hbehind
      exact .inl rfl
    · obtain rfl : own = [.expired, .gaveUp] := hbehind
      exact .inr (.inl rfl)
  | expire hwaiter hslot =>
    obtain rfl := hwaiter
    obtain rfl : own = [] := hbehind
    rfl
  | giveUp hwaiter =>
    obtain rfl := hwaiter
    obtain rfl : own = [.expired] := hbehind
    rfl
  | miss hwaiter hslot =>
    obtain rfl := hwaiter
    obtain rfl : own = [.expired, .gaveUp] := hbehind
    rfl
  | timeOut hwaiter =>
    obtain rfl := hwaiter
    obtain rfl : own = [.expired, .gaveUp, .missed] := hbehind
    exact .inr (.inr rfl)
  | take hwaiter hslot =>
    obtain rfl := hwaiter
    rw [List.filter_nil, List.append_nil]
    exact hbehind

lemma empty (hturn : h.Turn more h') (hempty : EmptyHanded events)
    (hfirst : h.result?.or h.promise.slot = (writes events).head?) :
    EmptyHanded (events ++ more) := by
  obtain ⟨⟨cancelled, slot⟩, held, waiter⟩ := h
  cases hturn with
  | idle | find | take => rwa [List.append_nil]
  | store | cancel | giveUp | timeOut => exact hempty.concat nofun
  | expire hwaiter hslot | miss hwaiter hslot =>
    -- the caller has not returned yet, so an empty slot means that nothing was stored
    obtain rfl := hwaiter
    obtain rfl := hslot
    exact hempty.concat fun _ => List.head?_eq_none_iff.1 hfirst.symm

lemma cancelled_eq (hturn : h.Turn more h') :
    h'.promise.cancelled = (h.promise.cancelled || more.any Incident.isCancel) := by
  cases hturn <;> simp [Promise.cancel, Incident.isCancel]

/-- What has been returned has been returned for good. -/
lemma result?_eq (hturn : h.Turn more h') {result : CallResult α}
    (hreturned : h.result? = some result) : h'.result? = some result := by
  obtain ⟨promise, held, waiter⟩ := h
  cases hturn with
  | idle | store | cancel => exact hreturned
  | find hwaiter hslot =>
    obtain rfl | rfl : waiter = .waiting ∨ waiter = .rechecking := hwaiter
    · cases hreturned
    · cases hreturned
  | expire hwaiter hslot | giveUp hwaiter | miss hwaiter hslot | timeOut hwaiter
  | take hwaiter hslot =>
    obtain rfl := hwaiter
    cases hreturned

end Turn

lemma result?_run {result : CallResult α} (hreturned : h.result? = some result)
    (moves : List (Move α)) : (h.run moves).result? = some result := by
  induction moves generalizing h with
  | nil => exact hreturned
  | cons move moves ih => exact ih ((turn_step h move).result?_eq hreturned)

lemma told_start : Told [] (start (.new : Promise α)) where
  first := rfl
  ready := nofun
  behind := rfl
  empty := emptyHanded_nil
  cancelled := rfl

lemma Told.turn (htold : Told events h) (hturn : h.Turn more h') : Told (events ++ more) h' where
  first := by
    rw [hturn.first_eq, htold.first, writes, writes, writes, List.filterMap_append,
      List.head?_append]
  ready := hturn.ready htold.ready
  behind := by
    rw [List.filter_append]
    exact hturn.behind htold.behind
  empty := hturn.empty htold.empty htold.first
  cancelled := by rw [hturn.cancelled_eq, htold.cancelled, List.any_append]

lemma told_run (moves : List (Move α)) :
    Told ((start .new).history moves) ((start .new).run moves) := by
  induction moves using List.reverseRecOn with
  | nil => exact told_start
  | append_singleton moves move ih =>
    rw [run_concat, history_concat]
    exact ih.turn (turn_step _ move)

/-- If nobody holds the flag and nobody else moves, the caller returns. -/
lemma Told.isSome_alone (htold : Told events h) (hheld : h.held = false) :
    (h.run alone).result?.isSome := by
  have hready := htold.ready
  obtain ⟨⟨cancelled, slot⟩, held, waiter⟩ := h
  subst hheld
  cases waiter with
  | waiting | expired | rechecking | abandoning => cases slot <;> rfl
  | taking =>
    obtain ⟨result, rfl⟩ := Option.isSome_iff_exists.1 (hready rfl)
    rfl
  | returned result => rfl

/-! ## The wait -/

/-- What can be said of a wait in which these incidents have happened. -/
structure Waited (events : List (Incident α)) (h : Handover α) : Prop where
  /-- What is returned was stored first. -/
  first : ∀ result, h.result? = some result → (writes events).head? = some result
  /-- The caller does nothing by itself but cancel when the bound has passed without a result, and
  store its timeout when it has found no result behind that either. -/
  steps : events.filter Incident.isOwn <+: course
  /-- It has not returned with the bound passed and the promise not cancelled, nor with no result
  found and its timeout not stored. -/
  whole : h.result?.isSome → events.filter Incident.isOwn ∈ [[], [.expired, .gaveUp], course]
  /-- When it found no result, nothing had been stored. -/
  empty : EmptyHanded events
  /-- The promise is cancelled if the caller has given up, or somebody else has cancelled. -/
  cancelled : h.promise.cancelled = events.any Incident.isCancel

lemma Told.waited (htold : Told events h) : Waited events h := by
  obtain ⟨hfirst, -, hbehind, hempty, hcancelled⟩ := htold
  refine ⟨fun result hreturned => ?_, ?_, fun hreturned => ?_, hempty, hcancelled⟩
  · rw [← hfirst, hreturned, Option.some_or]
  · obtain ⟨promise, held, waiter⟩ := h
    generalize events.filter Incident.isOwn = own at hbehind
    cases waiter with
    | waiting | expired | rechecking | abandoning =>
      obtain rfl := hbehind
      exact ⟨_, rfl⟩
    | taking | returned =>
      obtain rfl | rfl | rfl := hbehind
      · exact ⟨_, rfl⟩
      · exact ⟨_, rfl⟩
      · exact List.prefix_refl _
  · obtain ⟨promise, held, waiter⟩ := h
    cases waiter with
    | returned result => simpa [Behind] using hbehind
    | waiting | expired | rechecking | abandoning | taking => cases hreturned

/-- **A wait among others.**  Whoever stores, cancels and holds the flag in whatever order, the
caller returns what was stored first, and keeps to its course; what it has returned is not changed
by anything that happens later, and it does return if the flag is let go of. -/
theorem waited_run (moves : List (Move α)) :
    Waited ((start .new).history moves) ((start .new).run moves) ∧
      (∀ result, ((start .new).run moves).result? = some result →
        ∀ later, ((start .new).run (moves ++ later)).result? = some result) ∧
      (((start .new).run moves).held = false →
        ((start .new).run (moves ++ alone)).result?.isSome) := by
  have htold := told_run moves
  refine ⟨htold.waited, fun result hreturned later => ?_, fun hheld => ?_⟩
  · rw [run, List.foldl_append]
    exact result?_run hreturned later
  · rw [run, List.foldl_append]
    exact htold.isSome_alone hheld

/-- A result that is stored behind the second look of the caller, but before its timeout, is
returned; one that is stored later is not. -/
theorem waited_run_late :
    let moves : List (Move Nat) :=
      [.hold, .expire, .proceed, .release, .proceed, .proceed, .store (.ok 1), .proceed, .proceed]
    ((start .new).history moves = [.expired, .gaveUp, .missed, .stored (.ok 1), .timedOut]) ∧
      ((start .new).run (moves ++ [.store (.ok 2), .cancel])).result? = some (.ok 1) ∧
      (writes ((start .new).history moves)).head? = some (.ok 1) := by
  intro moves
  obtain ⟨hwaited, hlater, -⟩ := waited_run moves
  exact ⟨rfl, hlater (.ok 1) rfl _, hwaited.first (.ok 1) rfl⟩

end Handover

end PluginHost
