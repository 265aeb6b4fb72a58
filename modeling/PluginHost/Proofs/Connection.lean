/-
# Connection handles

A host is connected to one server after the other, and every connection gets a handle, by which it
is named until the next one takes its place.  The handles are counted up from zero, in a width of
thirty-two bits with a sign; behind the largest one the count would be negative, and goes on at zero
instead.  So the handle of a connection is the number of connections before it, up to multiples of
`2 ^ 31` (`Host.followingConnection_toInt`).

What follows for the handles that were given out is said by `Host.Connected`, and holds after any
sequence of connections and synchronizations (`Host.connectAll_connected`): the handle of an earlier
connection is refused, unless it has come again by the count going round.
-/
import Mathlib.Algebra.Order.Ring.Int
import PluginHost.Proofs.Call.Precedence

namespace PluginHost

/-- Something that happens to the session of a host. -/
inductive SessionEvent where
  /-- A session begins, in the place of an earlier one. -/
  | connect (link : Link) (directory : Directory)
  /-- The server tells who the local user is. -/
  | synchronize (user : UserId)

namespace SessionEvent

/-- Whether a session begins. -/
def isConnect : SessionEvent → Bool
  | connect _ _ => true
  | synchronize _ => false

/-- What an event does to a host and to the list of handles that were given out. -/
def apply : Host × List ConnectionHandle → SessionEvent → Host × List ConnectionHandle
  | (h, handles), connect link directory =>
    let (handle, h') := h.connect link directory
    (h', handles ++ [handle])
  | (h, handles), synchronize user => ((h.synchronize user).2, handles)

end SessionEvent

namespace Host

/-- The host after some events, and the handles that were given out, the first one in front. -/
def connectAll (h : Host) (events : List SessionEvent) : Host × List ConnectionHandle :=
  events.foldl SessionEvent.apply (h, [])

/-! ## Counting -/

/-- Handles are counted from zero to the largest one, and then from zero again. -/
theorem followingConnection_toInt {handle : ConnectionHandle} (hnonneg : 0 ≤ handle.toInt) :
    (followingConnection handle).toInt = (handle.toInt + 1) % 2 ^ 31 := by
  have hlt := handle.toInt_lt
  have hnext : (handle + 1).toInt = (handle.toInt + 1).bmod (2 ^ 32) := Int32.toInt_add handle 1
  have hmax : followingConnection handle = if handle + 1 ≤ 0 then 0 else handle + 1 := rfl
  rw [hmax]
  split_ifs with hwraps
  · -- the sum is out of range, and would be negative
    have hlast : handle.toInt + 1 = 2 ^ 31 := by
      rw [Int32.le_iff_toInt_le, hnext, Int32.toInt_zero, Int.bmod_def] at hwraps
      split_ifs at hwraps <;> omega
    rw [hlast, Int.emod_self, Int32.toInt_zero]
  · have hsmall : handle.toInt + 1 < 2 ^ 31 := by
      by_contra hlarge
      have hlast : handle.toInt + 1 = 2 ^ 31 := by omega
      rw [Int32.le_iff_toInt_le, hnext, hlast] at hwraps
      exact hwraps (by decide)
    rw [hnext, Int.emod_eq_of_lt (by omega) hsmall, Int.bmod_eq_of_le (by omega) (by omega)]

/-- Behind the largest handle comes the first one. -/
example : followingConnection 0x7FFFFFFF = 0 := by decide

/-- The handle that comes next is counted from the handles there were, and the session has the one
that was given out last. -/
structure Numbered (h : Host) (handles : List ConnectionHandle) : Prop where
  next_eq : h.nextConnection.toInt = (handles.length % 2 ^ 31 : ℕ)
  handle_eq : ∀ (n : ℕ) handle, handles[n]? = some handle → handle.toInt = (n % 2 ^ 31 : ℕ)
  session_eq : h.session.map Session.connection = handles.getLast?

variable {h : Host} {handles : List ConnectionHandle}

lemma numbered_new (hsession : h.session = none) (hnext : h.nextConnection = 0) :
    Numbered h [] where
  next_eq := by rw [hnext]; rfl
  handle_eq := by simp
  session_eq := by rw [hsession]; rfl

namespace Numbered

lemma connect (hnumbered : Numbered h handles) (link : Link) (directory : Directory) :
    Numbered (h.connect link directory).2 (handles ++ [(h.connect link directory).1]) where
  next_eq := by
    have hnext := hnumbered.next_eq
    have hfollowing : (followingConnection h.nextConnection).toInt = _ :=
      followingConnection_toInt (by omega)
    rw [List.length_append, List.length_singleton]
    change (followingConnection h.nextConnection).toInt = _
    omega
  handle_eq := by
    intro n handle hhandle
    rcases Nat.lt_or_ge n handles.length with hlt | hge
    · rw [List.getElem?_append_left hlt] at hhandle
      exact hnumbered.handle_eq n handle hhandle
    · rw [List.getElem?_append_right hge, List.getElem?_singleton] at hhandle
      split_ifs at hhandle with hlast
      obtain rfl : n = handles.length := by omega
      cases hhandle
      exact hnumbered.next_eq
  session_eq := by
    rw [List.getLast?_concat]
    rfl

lemma synchronize (hnumbered : Numbered h handles) (user : UserId) :
    Numbered (h.synchronize user).2 handles := by
  have hsession := hnumbered.session_eq
  unfold Host.synchronize
  rcases hs : h.session with _ | s
  · exact hnumbered
  · rw [hs] at hsession
    exact ⟨hnumbered.next_eq, hnumbered.handle_eq, hsession⟩

/-- Two handles are the same if the connections between them go round. -/
lemma eq_iff (hnumbered : Numbered h handles) {m n : ℕ} {handle handle' : ConnectionHandle}
    (hhandle : handles[m]? = some handle) (hhandle' : handles[n]? = some handle') :
    handle = handle' ↔ m % 2 ^ 31 = n % 2 ^ 31 := by
  rw [← Int32.toInt_inj, hnumbered.handle_eq m handle hhandle,
    hnumbered.handle_eq n handle' hhandle', Int.natCast_inj]

/-- The handle given out last is accepted, and no other. -/
lemma connection_eq (hnumbered : Numbered h handles) (handle : ConnectionHandle) :
    (handles.getLast? = some handle ∧ ∃ s, h.connection handle = .ok s) ∨
      (handles.getLast? ≠ some handle ∧ h.connection handle = .error .connectionNotFound) := by
  rw [← hnumbered.session_eq]
  rcases hsession : h.session with _ | s
  · exact .inr ⟨nofun, connection_of_ne (by simp [hsession])⟩
  by_cases hhandle : s.connection = handle
  · exact .inl ⟨congrArg some hhandle, s, by simp only [connection, hsession, hhandle, if_true]⟩
  · refine .inr ⟨fun heq => hhandle (Option.some.inj heq), connection_of_ne ?_⟩
    rintro s' hs'
    cases hsession.symm.trans hs'
    exact hhandle

end Numbered

/-- Whatever happens, the handles stay numbered. -/
lemma numbered_connectAll (hsession : h.session = none) (hnext : h.nextConnection = 0)
    (events : List SessionEvent) :
    Numbered (h.connectAll events).1 (h.connectAll events).2 ∧
      (h.connectAll events).2.length = events.countP SessionEvent.isConnect := by
  induction events using List.reverseRecOn with
  | nil => exact ⟨numbered_new hsession hnext, rfl⟩
  | append_singleton events event ih =>
    obtain ⟨hnumbered, hlength⟩ := ih
    rw [connectAll, List.foldl_append, List.countP_append, ← hlength]
    cases event with
    | connect link directory =>
      exact ⟨hnumbered.connect link directory, List.length_append⟩
    | synchronize user => exact ⟨hnumbered.synchronize user, rfl⟩

/-- A session keeps its handle, and its local user is the one that was told last. -/
lemma foldl_synchronize (h : Host) (s : Session) (handles : List ConnectionHandle)
    (users : List UserId) :
    (users.map SessionEvent.synchronize).foldl SessionEvent.apply
        ({ h with session := some s }, handles) =
      ({ h with session := some { s with localUser := users.getLast?.or s.localUser } },
        handles) := by
  induction users using List.reverseRecOn with
  | nil => rfl
  | append_singleton users user ih =>
    rw [List.map_append, List.foldl_append, ih, List.getLast?_concat]
    rfl

/-- A session that has begun has the handle that came next, and knows the users it was told. -/
lemma connectAll_synchronize (h : Host) (before : List SessionEvent) (link : Link)
    (directory : Directory) (users : List UserId) :
    ∃ handle, (h.connectAll (before ++ .connect link directory :: users.map .synchronize)).1.session
        = some ⟨handle, link, directory, users.getLast?⟩ := by
  rw [connectAll, List.foldl_append, List.foldl_cons]
  rcases before.foldl SessionEvent.apply (h, []) with ⟨reached, handles⟩
  have hbegun := foldl_synchronize (reached.connect link directory).2
    (.begin reached.nextConnection link directory) (handles ++ [reached.nextConnection]) users
  refine ⟨reached.nextConnection, ?_⟩
  rw [Session.begin, Option.or_none] at hbegun
  exact congrArg (fun reached => reached.1.session) hbegun

/-- Without a session nobody is the local user, and nothing changes. -/
lemma connectAll_of_nil (hsession : h.session = none) {events : List SessionEvent}
    (hnone : (h.connectAll events).2 = []) : (h.connectAll events).1 = h := by
  induction events using List.reverseRecOn with
  | nil => rfl
  | append_singleton events event ih =>
    rw [connectAll, List.foldl_append] at hnone ⊢
    cases event with
    | connect link directory => exact absurd hnone (List.concat_ne_nil _ _)
    | synchronize user =>
      have hbefore := ih hnone
      change ((h.connectAll events).1.synchronize user).2 = h
      rw [hbefore, Host.synchronize, hsession]

/-! ## After any sequence of events -/

/-- What is true of a host that was `start`, had no session then, and has given out `handles` while
`events` happened. -/
structure Connected (start : Host) (events : List SessionEvent) (h : Host)
    (handles : List ConnectionHandle) : Prop where
  /-- Every connection got a handle. -/
  length_eq : handles.length = events.countP SessionEvent.isConnect
  /-- It is the number of connections before, up to multiples of `2 ^ 31`, and never negative. -/
  handle_eq : ∀ (n : ℕ) handle, handles[n]? = some handle →
    handle.toInt = (n % 2 ^ 31 : ℕ) ∧ 0 ≤ handle
  /-- A session is not synchronized until the server tells who the local user is, whatever there
  was before it; of several users the last one counts. -/
  session_eq : ∀ before link directory (users : List UserId),
    events = before ++ .connect link directory :: users.map .synchronize →
    ∃ handle, handles.getLast? = some handle ∧
      let session : Session := ⟨handle, link, directory, users.getLast?⟩
      h.session = some session ∧
      h.synchronized handle =
        users.getLast?.elim (.error .connectionUnsynchronized) fun user => .ok (session, user)
  /-- The handle given out last is accepted, and no other. -/
  accepted_iff : ∀ handle, (∃ s, h.connection handle = .ok s) ↔ handles.getLast? = some handle
  /-- Any other handle is refused as that of no connection. -/
  refused_iff : ∀ handle,
    h.connection handle = .error .connectionNotFound ↔ handles.getLast? ≠ some handle
  /-- The handle of an earlier connection is refused, unless since then the count has gone round,
  perhaps several times. -/
  replaced_iff : ∀ (n : ℕ) handle, handles[n]? = some handle → n + 1 < handles.length →
    (h.connection handle = .error .connectionNotFound ↔
      ¬ ∃ k, 0 < k ∧ handles.length - (n + 1) = k * 2 ^ 31)
  /-- Before the first connection nothing has changed, and no local user is taken note of. -/
  unconnected : handles = [] → h = start ∧ ∀ user, h.synchronize user = (false, h)

lemma Numbered.replaced_iff (hnumbered : Numbered h handles) {n : ℕ} {handle : ConnectionHandle}
    (hhandle : handles[n]? = some handle) (hreplaced : n + 1 < handles.length) :
    handles.getLast? ≠ some handle ↔
      ¬ ∃ k, 0 < k ∧ handles.length - (n + 1) = k * 2 ^ 31 := by
  obtain ⟨latest, hlatest⟩ : ∃ latest, handles[handles.length - 1]? = some latest :=
    ⟨_, List.getElem?_eq_getElem (by omega)⟩
  rw [List.getLast?_eq_getElem?, hlatest, ne_eq, Option.some.injEq,
    hnumbered.eq_iff hlatest hhandle, not_iff_not]
  constructor
  · intro hround
    exact ⟨(handles.length - (n + 1)) / 2 ^ 31, by omega, by omega⟩
  · rintro ⟨k, -, hk⟩
    omega

/-- **Handles are counted, and only the last one is accepted.**  Whatever connections and
synchronizations there have been on a host that was new, all that is said in `Connected` holds. -/
theorem connectAll_connected (hsession : h.session = none) (hnext : h.nextConnection = 0)
    (events : List SessionEvent) :
    Connected h events (h.connectAll events).1 (h.connectAll events).2 := by
  obtain ⟨hnumbered, hlength⟩ := numbered_connectAll hsession hnext events
  have hrefused : ∀ handle, (h.connectAll events).1.connection handle =
      .error .connectionNotFound ↔ (h.connectAll events).2.getLast? ≠ some handle := by
    intro handle
    rcases hnumbered.connection_eq handle with ⟨hlast, s, hs⟩ | ⟨hlast, hs⟩
    · simp [hs, hlast]
    · simp [hs, hlast]
  constructor
  · exact hlength
  · intro n handle hhandle
    have htoInt := hnumbered.handle_eq n handle hhandle
    refine ⟨htoInt, Int32.le_iff_toInt_le.2 ?_⟩
    rw [htoInt, Int32.toInt_zero]
    exact Int.natCast_nonneg _
  · rintro before link directory users rfl
    obtain ⟨handle, hsession'⟩ := connectAll_synchronize h before link directory users
    refine ⟨handle, by rw [← hnumbered.session_eq, hsession']; rfl, hsession', ?_⟩
    rw [synchronized, connection, hsession']
    simp only [if_true]
    cases users.getLast? <;> rfl
  · intro handle
    rcases hnumbered.connection_eq handle with ⟨hlast, s, hs⟩ | ⟨hlast, hs⟩
    · exact ⟨fun _ => hlast, fun _ => ⟨s, hs⟩⟩
    · refine ⟨?_, fun heq => absurd heq hlast⟩
      rintro ⟨s, hok⟩
      cases hs.symm.trans hok
  · exact hrefused
  · intro n handle hhandle hreplaced
    rw [hrefused, hnumbered.replaced_iff hhandle hreplaced]
  · intro hnone
    have hstart := connectAll_of_nil hsession hnone
    refine ⟨hstart, fun user => ?_⟩
    rw [hstart, synchronize, hsession]

/-- A user is told too early, and then a server is left for another one: its handle is refused, and
the session with the other one is not synchronized. -/
theorem connectAll_connected_moved :
    let h := Host.new (.ofConfig ⟨true, []⟩) (.ofConfig .default)
    let link : Link := .new ⟨1, 5, 0⟩ []
    let events : List SessionEvent :=
      [.synchronize 4, .connect link .empty, .synchronize 7, .connect link .empty]
    let (moved, handles) := h.connectAll events
    h.session = none ∧ h.nextConnection = 0 ∧ handles = [0, 1] ∧
      moved.connection 0 = .error .connectionNotFound ∧ (∃ s, moved.connection 1 = .ok s) ∧
      moved.synchronized 1 = .error .connectionUnsynchronized := by
  intro h link events
  have hconnected := connectAll_connected (h := h) rfl rfl events
  obtain ⟨handle, hlast, -, hunsynchronized⟩ :=
    hconnected.session_eq [.synchronize 4, .connect link .empty, .synchronize 7] link .empty [] rfl
  cases hlast
  refine ⟨rfl, rfl, rfl, (hconnected.refused_iff 0).2 (by decide),
    (hconnected.accepted_iff 1).2 rfl, hunsynchronized⟩

end Host
end PluginHost
