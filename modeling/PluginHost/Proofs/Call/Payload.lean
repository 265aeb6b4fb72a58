/-
# Payloads

A payload is passed on if it is not too long, its name is not too long, all of its receivers are
known and the server is recent enough.  These four are looked at in this order, and the first one
that is not so tells why the payload is refused.  A payload that is passed on is sent once, to the
receivers that were named and in their order, and a refused one is not sent at all
(`Host.perform_sendData`).

How recent a server is, is told by the parts of its version, as integers and one after the other
(`Version.before_iff`).
-/
import Mathlib.Data.Prod.Lex
import PluginHost.Proofs.Call.Lending
import PluginHost.Proofs.Call.Precedence
import PluginHost.Proofs.Text.Utf8

namespace PluginHost

/-! ## Versions -/

namespace Version

/-- The parts of a version, which are compared one after the other. -/
def parts (v : Version) : ℤ ×ₗ ℤ ×ₗ ℤ :=
  toLex (v.major.toInt, toLex (v.minor.toInt, v.patch.toInt))

lemma compare_eq_lt_iff (a b : Int32) : compare a b = .lt ↔ a.toInt < b.toInt := by
  rw [← Int32.lt_iff_toInt_lt]
  exact Std.compare_eq_lt

lemma compare_eq_eq_iff (a b : Int32) : compare a b = .eq ↔ a.toInt = b.toInt := by
  rw [Int32.toInt_inj]
  exact Std.compare_eq_iff_eq

/-- One version is before another one if it is smaller in the first part that differs. -/
theorem before_iff {a b : Version} : a.before b = true ↔ a.parts < b.parts := by
  simp only [before, order, beq_iff_eq, parts, Prod.Lex.toLex_lt_toLex, Ordering.then_eq_lt,
    compare_eq_lt_iff, compare_eq_eq_iff]

end Version

/-! ## Sending -/

namespace Host

variable {h : Host} {s : Session} {localUser : UserId} {receivers : List UserId} {data : Bytes}
  {dataId : String}

/-- What becomes of a payload, by the first thing that stands in its way. -/
lemma sendData_cases (h : Host) (s : Session) (localUser : UserId) (receivers : List UserId)
    (data : Bytes) (dataId : String) :
    let outcome := h.sendData s localUser receivers data dataId
    let known := ∀ id ∈ receivers, s.directory.user? id ≠ none
    let recent := Version.parts ⟨1, 4, 0⟩ ≤ s.link.serverVersion.parts
    (¬ data.length ≤ 1000 ∧ outcome = h.refuse .dataTooBig) ∨
    (data.length ≤ 1000 ∧ ¬ dataId.utf8ByteSize ≤ 100 ∧ outcome = h.refuse .dataIdTooLong) ∨
    (data.length ≤ 1000 ∧ dataId.utf8ByteSize ≤ 100 ∧ ¬ known ∧
      outcome = h.refuse .userNotFound) ∨
    (data.length ≤ 1000 ∧ dataId.utf8ByteSize ≤ 100 ∧ known ∧ ¬ recent ∧
      outcome = h.refuse .operationUnsupportedByServer) ∨
    (data.length ≤ 1000 ∧ dataId.utf8ByteSize ≤ 100 ∧ known ∧ recent ∧
      outcome = (h.withLink s (s.link.send ⟨localUser, receivers, data, dataId⟩)).answer .unit) := by
  intro outcome known recent
  have hfits : dataLimit < data.length ↔ ¬ data.length ≤ 1000 := not_le.symm
  have hnamed : dataIdLimit < Utf8.size dataId ↔ ¬ dataId.utf8ByteSize ≤ 100 := by
    rw [Utf8.size_eq, not_le]
    rfl
  have hknown : (receivers.any fun id => (s.directory.user? id).isNone) = true ↔ ¬ known := by
    simp [known]
  have hrecent : s.link.serverVersion.before dataVersion = true ↔ ¬ recent := by
    rw [Version.before_iff, ← not_le]
    rfl
  have houtcome : outcome = h.sendData s localUser receivers data dataId := rfl
  simp only [sendData, hfits, hnamed, hknown, hrecent] at houtcome
  by_cases hf : data.length ≤ 1000
  · rw [if_neg (not_not_intro hf)] at houtcome
    by_cases hn : dataId.utf8ByteSize ≤ 100
    · rw [if_neg (not_not_intro hn)] at houtcome
      by_cases hk : known
      · rw [if_neg (not_not_intro hk)] at houtcome
        by_cases hr : recent
        · rw [if_neg (not_not_intro hr)] at houtcome
          exact .inr (.inr (.inr (.inr ⟨hf, hn, hk, hr, houtcome⟩)))
        · rw [if_pos hr] at houtcome
          exact .inr (.inr (.inr (.inl ⟨hf, hn, hk, hr, houtcome⟩)))
      · rw [if_pos hk] at houtcome
        exact .inr (.inr (.inl ⟨hf, hn, hk, houtcome⟩))
    · rw [if_pos hn] at houtcome
      exact .inr (.inl ⟨hf, hn, houtcome⟩)
  · rw [if_pos hf] at houtcome
    exact .inl ⟨hf, houtcome⟩

/-- Whoever is accepted, in a session with a local user, gets to send. -/
lemma perform_eq_sendData {plugin : PluginId} (haccepts : h.registry.Accepts plugin)
    (hsession : h.session = some s) (hlocal : s.localUser = some localUser)
    (receivers : List UserId) (data : Bytes) (dataId : String) :
    h.perform plugin (.onSession s.connection (.sendData receivers data dataId)) =
      h.sendData s localUser receivers data dataId := by
  rw [perform_of_accepts haccepts]
  simp only [performAccepted, synchronized_eq hsession hlocal, performOnSession]

/-- **A payload is sent once, or refused for the first reason there is.** -/
theorem perform_sendData {plugin : PluginId} (haccepts : h.registry.Accepts plugin)
    (hsession : h.session = some s) (hlocal : s.localUser = some localUser)
    (receivers : List UserId) (data : Bytes) (dataId : String) :
    let outcome := h.perform plugin (.onSession s.connection (.sendData receivers data dataId))
    let fits := data.length ≤ 1000
    let named := dataId.utf8ByteSize ≤ 100
    let known := ∀ id ∈ receivers, s.directory.user? id ≠ none
    let recent := Version.parts ⟨1, 4, 0⟩ ≤ s.link.serverVersion.parts
    let sent := { h with session := some { s with link := { s.link with
      sent := s.link.sent ++ [⟨localUser, receivers, data, dataId⟩] } } }
    (outcome.result = some (.error .dataTooBig) ↔ ¬ fits) ∧
    (outcome.result = some (.error .dataIdTooLong) ↔ fits ∧ ¬ named) ∧
    (outcome.result = some (.error .userNotFound) ↔ fits ∧ named ∧ ¬ known) ∧
    (outcome.result = some (.error .operationUnsupportedByServer) ↔
      fits ∧ named ∧ known ∧ ¬ recent) ∧
    (outcome.result = some (.ok .unit) ↔ fits ∧ named ∧ known ∧ recent) ∧
    outcome.host = if outcome.result = some (.ok .unit) then sent else h := by
  intro outcome fits named known recent sent
  have houtcome : outcome = h.sendData s localUser receivers data dataId :=
    perform_eq_sendData haccepts hsession hlocal receivers data dataId
  obtain ⟨hfits, heq⟩ | ⟨hfits, hnamed, heq⟩ | ⟨hfits, hnamed, hknown, heq⟩ |
      ⟨hfits, hnamed, hknown, hrecent, heq⟩ | ⟨hfits, hnamed, hknown, hrecent, heq⟩ :=
    h.sendData_cases s localUser receivers data dataId
  · simp [houtcome, heq, refuse, fits, hfits]
  · simp [houtcome, heq, refuse, fits, named, hfits, hnamed]
  · have hk : ¬ known := hknown
    simp [houtcome, heq, refuse, fits, named, hfits, hnamed, hk]
  · have hk : known := hknown
    have hr : ¬ recent := hrecent
    simp [houtcome, heq, refuse, fits, named, hfits, hnamed, hk, hr]
  · have hk : known := hknown
    have hr : recent := hrecent
    simp [houtcome, heq, answer, fits, named, hfits, hnamed, hk, hr, sent, withLink, withSession,
      Link.send]

/-- The local user is named twice, and gets the payload twice; somebody unknown is named, and nothing
is sent; a name of fewer than a hundred characters is too long all the same. -/
theorem perform_sendData_lonely :
    let send (receivers : List UserId) (dataId : String) : Outcome :=
      lonely.perform 3 (.onSession 0 (.sendData receivers [7] dataId))
    ((send [1, 1] "ping").result = some (.ok .unit) ∧
      (send [1, 1] "ping").host.session.map (·.link.sent) = some [⟨1, [1, 1], [7], "ping"⟩]) ∧
    ((send [1, 2] "ping").result = some (.error .userNotFound) ∧
      (send [1, 2] "ping").host.session.map (·.link.sent) = some []) ∧
    (send [2] (String.ofList (List.replicate 51 'é'))).result = some (.error .dataIdTooLong) := by
  intro send
  have haccepts : lonely.registry.Accepts 3 := by decide
  have hsent := fun receivers dataId =>
    perform_sendData haccepts rfl rfl receivers [7] dataId
  obtain ⟨-, -, -, -, hok, hhost⟩ := hsent [1, 1] "ping"
  have hresult := hok.2 ⟨by decide, by decide, fun id hid => by
    obtain rfl : id = 1 := by simpa using hid
    decide +kernel, by decide +kernel⟩
  rw [if_pos hresult] at hhost
  obtain ⟨-, -, hunknown, -, -, hhost'⟩ := hsent [1, 2] "ping"
  have hresult' := hunknown.2 ⟨by decide, by decide, fun hknown =>
    hknown 2 (by decide) (by decide +kernel)⟩
  rw [if_neg (by rw [hresult']; decide)] at hhost'
  obtain ⟨-, hlong, -⟩ := hsent [2] (String.ofList (List.replicate 51 'é'))
  have hresult'' := hlong.2 ⟨by decide, by decide +kernel⟩
  refine ⟨⟨hresult, ?_⟩, ⟨hresult', ?_⟩, hresult''⟩
  · exact congrArg (fun h : Host => h.session.map (·.link.sent)) hhost
  · exact congrArg (fun h : Host => h.session.map (·.link.sent)) hhost'

end Host

end PluginHost
