/-
# Writing to a promise, and taking from it

Any number of parties write to a promise, cancel it and ask about it, and its one caller takes the
result, at most once.  A `Promise.Operation` is one thing that one of them does, so a list of
operations is one order in which everything can happen, and each operation has its answer
(`Promise.Pair.run`).

What is answered can be read off the operations in front.  The slot is empty in two stretches of a
run: up to the first write, and from the moment in which the result is taken up to the next write
behind it (`Promise.held`).  In both of them a write is kept.  So the caller always gets what was
written first, and until then no other write is kept; but when the caller has taken the result, one
more write is kept, which nobody gets (`Promise.kept_and_yielded`).
-/
import Mathlib.Data.List.Induction
import Mathlib.Data.List.TakeWhile
import Mathlib.Tactic.Lemma
import PluginHost.Promise

namespace PluginHost

namespace Promise

variable {α : Type}

/-- Something that is done to a promise, or asked of it. -/
inductive Operation (α : Type) where
  /-- Store a result. -/
  | set (result : CallResult α)
  /-- Take hold of the cancel flag, look at it, and store a result. -/
  | setGuarded (result : CallResult α)
  /-- Tell the host that the caller has given up. -/
  | cancel
  /-- Ask whether the caller has given up. -/
  | isCancelled
  /-- Ask through the future whether a result is there. -/
  | isReady
  /-- Wait through the future until a result is there or a time bound has passed. -/
  | wait
  /-- Take the result through the future, which is used up by it. -/
  | get
deriving DecidableEq

/-- What is answered to an operation. -/
inductive Answer (α : Type) where
  /-- Whether the result was kept. -/
  | stored (kept : Bool)
  /-- Whether the caller had given up, and whether the result was kept. -/
  | guarded (cancelled kept : Bool)
  /-- Nothing. -/
  | done
  /-- Yes or no. -/
  | flag (value : Bool)
  /-- The result. -/
  | result (result : CallResult α)
  /-- Nothing yet: there is no result to be taken. -/
  | pending
  /-- The future has been used up. -/
  | gone
deriving DecidableEq

/-- The result that an operation wants to store. -/
def Operation.written? : Operation α → Option (CallResult α)
  | set result | setGuarded result => some result
  | _ => none

/-- Whether an operation takes the result. -/
def Operation.isGet : Operation α → Bool
  | get => true
  | _ => false

/-- Whether an operation tells that the caller has given up. -/
def Operation.isCancel : Operation α → Bool
  | cancel => true
  | _ => false

/-- Whether an answer says that a result was kept. -/
def Answer.isKept : Answer α → Bool
  | stored kept | guarded _ kept => kept
  | _ => false

/-- The result in an answer. -/
def Answer.result? : Answer α → Option (CallResult α)
  | result r => some r
  | _ => none

/-- A promise and its future. -/
structure Pair (α : Type) where
  /-- The promise. -/
  promise : Promise α
  /-- Whether the future can still be used. -/
  future : Bool

namespace Pair

/-- A promise and its future, as they are made. -/
def new : Pair α := ⟨.new, true⟩

/-- One operation, and what is answered. -/
def step (s : Pair α) : Operation α → Answer α × Pair α
  | .set result =>
    let (kept, promise) := s.promise.set result
    (.stored kept, { s with promise := promise })
  | .setGuarded result =>
    let (kept, promise) := s.promise.set result
    (.guarded s.promise.cancelled kept, { s with promise := promise })
  | .cancel => (.done, { s with promise := s.promise.cancel })
  | .isCancelled => (.flag s.promise.cancelled, s)
  | .isReady | .wait => (if s.future then .flag s.promise.isReady else .gone, s)
  | .get =>
    if s.future then
      match s.promise.take with
      | (some result, promise) => (.result result, ⟨promise, false⟩)
      | (none, _) => (.pending, s)
    else (.gone, s)

/-- Operations one after another, and what is answered. -/
def run (s : Pair α) : List (Operation α) → List (Answer α) × Pair α
  | [] => ([], s)
  | op :: ops =>
    let (answer, s') := s.step op
    let (answers, s'') := s'.run ops
    (answer :: answers, s'')

lemma run_concat (s : Pair α) (ops : List (Operation α)) (op : Operation α) :
    s.run (ops ++ [op]) =
      ((s.run ops).1 ++ [((s.run ops).2.step op).1], ((s.run ops).2.step op).2) := by
  induction ops generalizing s with
  | nil => rfl
  | cons first ops ih => simp only [List.cons_append, run, ih]

lemma length_run (s : Pair α) (ops : List (Operation α)) : (s.run ops).1.length = ops.length := by
  induction ops generalizing s with
  | nil => rfl
  | cons first ops ih => simp only [run, List.length_cons, ih]

end Pair

/-! ## What the operations in front tell -/

/-- The results that were to be stored, the first one in front. -/
def writes (ops : List (Operation α)) : List (CallResult α) := ops.filterMap Operation.written?

/-- The operations from the one on that takes the result: the first `get` behind the first write. -/
def sinceTaken (ops : List (Operation α)) : List (Operation α) :=
  (ops.dropWhile fun op => op.written?.isNone).dropWhile fun op => !op.isGet

/-- Whether the result has been taken. -/
def taken (ops : List (Operation α)) : Bool := !(sinceTaken ops).isEmpty

/-- What the slot holds: the first result that was to be stored, until it is taken, and then the
first one since. -/
def held (ops : List (Operation α)) : Option (CallResult α) :=
  if taken ops then (writes (sinceTaken ops)).head? else (writes ops).head?

/-- The answer to an operation that comes behind others. -/
def expected (ops : List (Operation α)) : Operation α → Answer α
  | .set _ => .stored (held ops).isNone
  | .setGuarded _ => .guarded (ops.any Operation.isCancel) (held ops).isNone
  | .cancel => .done
  | .isCancelled => .flag (ops.any Operation.isCancel)
  | .isReady | .wait => if taken ops then .gone else .flag (held ops).isSome
  | .get => if taken ops then .gone else (held ops).elim .pending .result

variable {ops : List (Operation α)} {op : Operation α}

lemma writes_concat (ops : List (Operation α)) (op : Operation α) :
    writes (ops ++ [op]) = writes ops ++ op.written?.toList := by
  rw [writes, List.filterMap_append]
  cases hwritten : op.written? with
  | none => rw [List.filterMap_cons_none hwritten]; rfl
  | some result => rw [List.filterMap_cons_some hwritten]; rfl

lemma written?_of_isGet (hget : op.isGet = true) : op.written? = none := by
  cases op with
  | get => rfl
  | _ => cases hget

lemma dropWhile_isEmpty_iff :
    (ops.dropWhile fun op => op.written?.isNone).isEmpty = true ↔ writes ops = [] := by
  simp only [List.isEmpty_iff, List.dropWhile_eq_nil_iff, Option.isNone_iff_eq_none, writes,
    List.filterMap_eq_nil_iff]

/-- The result is taken by a `get` behind a write, if it has not been taken before. -/
lemma sinceTaken_concat (ops : List (Operation α)) (op : Operation α) :
    sinceTaken (ops ++ [op]) =
      if taken ops then sinceTaken ops ++ [op]
      else if writes ops ≠ [] ∧ op.isGet then [op] else [] := by
  rw [taken, sinceTaken, sinceTaken, List.dropWhile_append]
  by_cases hwrites : writes ops = []
  · -- a `get` takes nothing as long as nothing was written
    have hempty := dropWhile_isEmpty_iff.2 hwrites
    have hnil := List.isEmpty_iff.1 hempty
    rw [if_pos hempty, hnil]
    cases op with
    | _ => simp [Operation.written?, Operation.isGet, hwrites]
  · rw [if_neg (mt dropWhile_isEmpty_iff.1 hwrites), List.dropWhile_append]
    generalize (ops.dropWhile fun op => op.written?.isNone).dropWhile (fun op => !op.isGet) = since
    by_cases hsince : since.isEmpty = true
    · rw [if_pos hsince, hsince]
      cases hget : op.isGet with
      | false => simp [hget]
      | true => simp [hget, hwrites]
    · simp [hsince]

lemma taken_concat (ops : List (Operation α)) (op : Operation α) :
    taken (ops ++ [op]) = (taken ops || (writes ops ≠ [] ∧ op.isGet)) := by
  rw [taken, sinceTaken_concat]
  by_cases htaken : taken ops = true
  · simp [htaken]
  · by_cases hgets : writes ops ≠ [] ∧ op.isGet
    · simp [htaken, hgets]
    · simp only [htaken, hgets]
      simp

/-- The result stays in the slot until it is taken; what is written into an empty slot is kept. -/
lemma held_concat (ops : List (Operation α)) (op : Operation α) :
    held (ops ++ [op]) =
      if !taken ops && op.isGet then none else (held ops).or op.written? := by
  rw [held, taken_concat, sinceTaken_concat, writes_concat, held]
  by_cases htaken : taken ops = true
  · simp only [htaken, Bool.true_or, if_true, writes_concat, Bool.not_true, Bool.false_and,
      Bool.false_eq_true, if_false]
    rw [List.head?_append]
    cases op.written? <;> rfl
  · rw [Bool.not_eq_true] at htaken
    simp only [htaken, Bool.false_or, Bool.false_eq_true, if_false, Bool.not_false, Bool.true_and]
    cases hget : op.isGet with
    | true =>
      have hwritten := written?_of_isGet hget
      by_cases hwrites : writes ops = []
      · simp [hwrites, hwritten]
      · have hsince : writes [op] = [] := by rw [writes, List.filterMap_cons_none hwritten]; rfl
        simp [hwrites, hsince]
    | false =>
      simp only [Bool.false_eq_true, and_false, decide_false, if_false]
      rw [List.head?_append]
      cases op.written? <;> rfl

/-! ## Runs -/

namespace Pair

/-- The state behind some operations is what they tell. -/
structure Traced (ops : List (Operation α)) (s : Pair α) : Prop where
  /-- The caller has given up if somebody said so. -/
  cancelled : s.promise.cancelled = ops.any Operation.isCancel
  /-- The slot holds what it should. -/
  slot : s.promise.slot = held ops
  /-- The future is used up by taking the result. -/
  future : s.future = !taken ops

lemma traced_new : Traced [] (new : Pair α) := ⟨rfl, rfl, rfl⟩

variable {s : Pair α}

lemma set_eq (p : Promise α) (result : CallResult α) :
    p.set result = (p.slot.isNone, { p with slot := p.slot.or (some result) }) := by
  obtain ⟨cancelled, _ | value⟩ := p <;> rfl

lemma Traced.answer (htraced : Traced ops s) (op : Operation α) :
    (s.step op).1 = expected ops op := by
  obtain ⟨⟨cancelled, slot⟩, future⟩ := s
  obtain ⟨hcancelled, hslot, hfuture⟩ := htraced
  dsimp only at hcancelled hslot hfuture
  subst hcancelled hslot hfuture
  cases op with
  | set result => simp only [step, set_eq, expected]
  | setGuarded result => simp only [step, set_eq, expected]
  | cancel => rfl
  | isCancelled => rfl
  | isReady | wait =>
    simp only [step, expected, Promise.isReady]
    cases taken ops <;> rfl
  | get =>
    simp only [step, expected, Promise.take]
    cases taken ops with
    | true => rfl
    | false => cases held ops <;> rfl

/-- The caller gets a result only once, and takes it out of the slot if one was kept by then. -/
lemma Traced.get (htraced : Traced ops s) : Traced (ops ++ [.get]) (s.step .get).2 := by
  obtain ⟨⟨cancelled, slot⟩, future⟩ := s
  obtain ⟨hcancelled, hslot, hfuture⟩ := htraced
  dsimp only at hcancelled hslot hfuture
  subst hcancelled hslot hfuture
  have hheld := held_concat ops .get
  have htaken := taken_concat ops .get
  simp only [Operation.isGet, Operation.written?, Bool.and_true, Option.or_none] at hheld htaken
  have hcancelled : (ops ++ [Operation.get]).any Operation.isCancel =
      ops.any Operation.isCancel := by
    simp [Operation.isCancel]
  cases htaken' : taken ops with
  | true =>
    rw [htaken'] at hheld htaken
    exact ⟨hcancelled.symm, hheld.symm, congrArg Bool.not htaken.symm⟩
  | false =>
    rw [htaken'] at hheld htaken
    have hwrites : held ops = (writes ops).head? := by
      rw [held, htaken', if_neg Bool.false_ne_true]
    cases hslot : held ops with
    | none =>
      have hnil : writes ops = [] := List.head?_eq_none_iff.1 (hwrites.symm.trans hslot)
      rw [hnil] at htaken
      exact ⟨hcancelled.symm, hheld.symm, congrArg Bool.not htaken.symm⟩
    | some result =>
      have hne : writes ops ≠ [] := by
        intro hnil
        rw [hwrites, hnil] at hslot
        cases hslot
      simp only [hne, ne_eq, not_false_eq_true, and_self, decide_true, Bool.or_true] at htaken
      exact ⟨hcancelled.symm, hheld.symm, congrArg Bool.not htaken.symm⟩

lemma Traced.step (htraced : Traced ops s) (op : Operation α) :
    Traced (ops ++ [op]) (s.step op).2 := by
  have hget := htraced.get
  obtain ⟨⟨cancelled, slot⟩, future⟩ := s
  obtain ⟨hcancelled, hslot, hfuture⟩ := htraced
  dsimp only at hcancelled hslot hfuture
  subst hcancelled hslot hfuture
  have hheld := held_concat ops op
  have htaken := taken_concat ops op
  cases op with
  | set result | setGuarded result =>
    simp only [Operation.isGet, Operation.written?] at hheld htaken
    refine ⟨?_, ?_, ?_⟩
    · simp [Pair.step, set_eq, Operation.isCancel]
    · simp [Pair.step, set_eq, hheld]
    · simp [Pair.step, set_eq, htaken]
  | cancel =>
    simp only [Operation.isGet, Operation.written?] at hheld htaken
    refine ⟨?_, ?_, ?_⟩
    · simp [Pair.step, Promise.cancel, Operation.isCancel]
    · simp [Pair.step, Promise.cancel, hheld]
    · simp [Pair.step, htaken]
  | isCancelled | isReady | wait =>
    simp only [Operation.isGet, Operation.written?] at hheld htaken
    refine ⟨?_, ?_, ?_⟩
    · simp [Pair.step, Operation.isCancel]
    · simp [Pair.step, hheld]
    · simp [Pair.step, htaken]
  | get => exact hget

lemma traced_run (ops : List (Operation α)) : Traced ops ((new : Pair α).run ops).2 := by
  induction ops using List.reverseRecOn with
  | nil => exact traced_new
  | append_singleton ops op ih =>
    rw [run_concat]
    exact ih.step op

lemma answer_run (ops : List (Operation α)) (op : Operation α) :
    (((new : Pair α).run ops).2.step op).1 = expected ops op :=
  (traced_run ops).answer op

end Pair

/-- The results that were kept, the first one in front. -/
def kept (ops : List (Operation α)) : List (CallResult α) :=
  (ops.zip (Pair.new.run ops).1).filterMap fun (op, answer) =>
    if answer.isKept then op.written? else none

/-- The results that the caller got. -/
def yielded (ops : List (Operation α)) : List (CallResult α) :=
  (Pair.new.run ops).1.filterMap Answer.result?

lemma kept_concat (ops : List (Operation α)) (op : Operation α) :
    kept (ops ++ [op]) = kept ops ++ if (held ops).isNone then op.written?.toList else [] := by
  have hlength : ops.length = (Pair.new.run ops).1.length := (Pair.length_run _ _).symm
  simp only [kept, Pair.run_concat, Pair.answer_run]
  rw [List.zip_append hlength, List.filterMap_append]
  congr 1
  cases op with
  | set result | setGuarded result =>
    simp only [expected, Answer.isKept, Operation.written?]
    cases (held ops).isNone <;> rfl
  | cancel | isCancelled | isReady | wait | get =>
    simp [Operation.written?]

lemma yielded_concat (ops : List (Operation α)) (op : Operation α) :
    yielded (ops ++ [op]) = yielded ops ++ (expected ops op).result?.toList := by
  simp only [yielded, Pair.run_concat, Pair.answer_run, List.filterMap_append]
  rfl

lemma getElem?_answers (ops : List (Operation α)) (i : Nat) :
    (Pair.new.run ops).1[i]? = ops[i]?.map (expected (ops.take i)) := by
  induction ops using List.reverseRecOn with
  | nil => rfl
  | append_singleton ops op ih =>
    have hlength : (Pair.new.run ops).1.length = ops.length := Pair.length_run _ _
    rw [Pair.run_concat, Pair.answer_run]
    by_cases hlt : i < ops.length
    · rw [List.getElem?_append_left (by omega), ih, List.getElem?_append_left hlt,
        List.take_append_of_le_length (Nat.le_of_lt hlt)]
    · by_cases heq : i = ops.length
      · subst heq
        rw [← hlength, List.getElem?_concat_length, hlength, List.getElem?_concat_length,
          List.take_left]
        rfl
      · rw [List.getElem?_eq_none (by simp; omega), List.getElem?_eq_none (by simp; omega)]
        rfl

lemma head?_concat {β : Type} (l : List β) (b : Option β) :
    (l ++ b.toList).head?.toList =
      l.head?.toList ++ if l.head?.isNone then b.toList else [] := by
  cases l with
  | nil => cases b <;> rfl
  | cons first l => rfl

lemma sinceTaken_of_not_taken (htaken : taken ops = false) : sinceTaken ops = [] := by
  rw [taken, Bool.not_eq_false'] at htaken
  exact List.isEmpty_iff.1 htaken

lemma writes_ne_nil_of_taken (htaken : taken ops = true) : writes ops ≠ [] := by
  intro hnil
  have hempty := List.isEmpty_iff.1 (dropWhile_isEmpty_iff.2 hnil)
  rw [taken, sinceTaken, hempty] at htaken
  cases htaken

lemma head?_writes_of_taken (htaken : taken ops = true) (op : Operation α) :
    (writes (ops ++ [op])).head? = (writes ops).head? := by
  obtain ⟨first, others, hwrites⟩ := List.exists_cons_of_ne_nil (writes_ne_nil_of_taken htaken)
  rw [writes_concat, hwrites]
  rfl

/-- No more than two writes are kept in a run: the first one, and the first one behind the moment
in which the result was taken. -/
lemma kept_eq (ops : List (Operation α)) :
    kept ops = (writes ops).head?.toList ++ (writes (sinceTaken ops)).head?.toList := by
  induction ops using List.reverseRecOn with
  | nil => rfl
  | append_singleton ops op ih =>
    rw [kept_concat, ih, sinceTaken_concat]
    cases htaken : taken ops with
    | true =>
      rw [if_pos rfl, head?_writes_of_taken htaken, writes_concat, head?_concat, held, htaken,
        if_pos rfl, List.append_assoc]
    | false =>
      -- the operation that takes the result writes nothing
      have hsince : writes (if writes ops ≠ [] ∧ op.isGet then [op] else []) = [] := by
        split
        · next hgets => rw [writes, List.filterMap_cons_none (written?_of_isGet hgets.2)]; rfl
        · rfl
      rw [if_neg Bool.false_ne_true, hsince, sinceTaken_of_not_taken htaken, writes_concat,
        head?_concat, held, htaken, if_neg Bool.false_ne_true]
      simp [writes]

/-- The caller gets the result that was written first. -/
lemma yielded_eq (ops : List (Operation α)) :
    yielded ops = if taken ops then (writes ops).head?.toList else [] := by
  induction ops using List.reverseRecOn with
  | nil => rfl
  | append_singleton ops op ih =>
    rw [yielded_concat, ih, taken_concat]
    cases htaken : taken ops with
    | true =>
      have hanswer : (expected ops op).result? = none := by
        cases op with
        | isReady | wait | get => simp [expected, htaken, Answer.result?]
        | set | setGuarded | cancel | isCancelled => rfl
      simp [hanswer, head?_writes_of_taken htaken]
    | false =>
      cases op with
      | get =>
        simp only [expected, htaken, held, Operation.isGet, writes_concat, Operation.written?]
        cases hwrites : writes ops with
        | nil => rfl
        | cons first others => rfl
      | isReady | wait => simp [expected, htaken, Answer.result?, Operation.isGet]
      | set | setGuarded | cancel | isCancelled =>
        simp [expected, Answer.result?, Operation.isGet]

/-- **What comes of a run on a new promise.**  Every answer is the one that the operations in front
of it tell.  The first write of the run is kept, and no other is until its result has been taken;
what the caller gets is this result.  Behind that, the first write is kept again, although there is
nobody left to get its result. -/
theorem kept_and_yielded (ops : List (Operation α)) :
    (∀ i, (Pair.new.run ops).1[i]? = ops[i]?.map (expected (ops.take i))) ∧
      kept ops = (writes ops).head?.toList ++
        (if taken ops then (writes (sinceTaken ops)).head?.toList else []) ∧
      yielded ops = if taken ops then (writes ops).head?.toList else [] := by
  refine ⟨getElem?_answers ops, ?_, yielded_eq ops⟩
  rw [kept_eq]
  split
  · rfl
  · next htaken =>
    rw [sinceTaken_of_not_taken (Bool.eq_false_iff.2 htaken)]
    rfl

/-- Two writes are kept in one run: the result of the first one is taken in between. -/
theorem kept_behind_get :
    let ops : List (Operation Nat) := [.set (.ok 1), .get, .set (.ok 2)]
    (Pair.new.run ops).1 = [.stored true, .result (.ok 1), .stored true] ∧
      kept ops = [.ok 1, .ok 2] ∧ yielded ops = [.ok 1] :=
  ⟨rfl, rfl, rfl⟩

end Promise

end PluginHost
