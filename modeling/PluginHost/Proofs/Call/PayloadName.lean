/-
# How long the name of a payload may be

The name of a payload comes as octets that end with a NUL, and is repaired before it is measured.
So the limit of a hundred octets is on what the receivers will see and not on what the caller
passed.  For a name that is text the two are the same.  Octets that are none get longer by being
repaired, up to three times, and a name of thirty-four of them is refused already
(`ApiTable.enter_sendData_named`).
-/
import PluginHost.Proofs.Call.Payload
import PluginHost.Proofs.Text.Repair

namespace PluginHost

namespace Host

variable {h : Host} {s : Session} {localUser : UserId} {receivers : List UserId} {data : Bytes}
  {dataId : String}

section
variable (hfits : data.length ≤ 1000)
include hfits

lemma sendData_of_long (hlong : 100 < dataId.utf8ByteSize) :
    h.sendData s localUser receivers data dataId = h.refuse .dataIdTooLong := by
  obtain ⟨hbig, -⟩ | ⟨-, -, heq⟩ | ⟨-, hnamed, -⟩ | ⟨-, hnamed, -⟩ | ⟨-, hnamed, -⟩ :=
    h.sendData_cases s localUser receivers data dataId
  · exact absurd hfits hbig
  · exact heq
  all_goals exact absurd hnamed (not_le.2 hlong)

lemma sendData_of_named (hnamed : dataId.utf8ByteSize ≤ 100)
    (hknown : ∀ id ∈ receivers, s.directory.user? id ≠ none)
    (hrecent : Version.parts ⟨1, 4, 0⟩ ≤ s.link.serverVersion.parts) :
    h.sendData s localUser receivers data dataId =
      (h.withLink s (s.link.send ⟨localUser, receivers, data, dataId⟩)).answer .unit := by
  obtain ⟨hbig, -⟩ | ⟨-, hlong, -⟩ | ⟨-, -, hunknown, -⟩ | ⟨-, -, -, hold, -⟩ | ⟨-, -, -, -, heq⟩ :=
    h.sendData_cases s localUser receivers data dataId
  · exact absurd hfits hbig
  · exact absurd hnamed hlong
  · exact absurd hknown hunknown
  · exact absurd hrecent hold
  · exact heq

end

end Host

namespace ApiTable

section

variable {h : Host} {s : Session} {localUser : UserId} {plugin : PluginId} {users : Items UserId}
  {receivers : List UserId} {payload : Items UInt8} {data id : Bytes} (table : ApiTable)
  (thread : Thread) (targets : Targets) (hreceivers : users.read = some receivers)
  (hdata : payload.read = some data) (hnul : (0 : UInt8) ∉ id) (behind : Bytes)
include hreceivers hdata hnul

/-- The arguments of a payload, of which none is missing. -/
lemma complete?_sendData (connection : ConnectionHandle) :
    (TableCall.sendData connection users payload (some (id ++ 0 :: behind))).complete? table
      targets = some (.onSession connection (.sendData receivers data (Utf8.repair id))) := by
  have hid : Terminated.read (id ++ 0 :: behind) = Utf8.repair id := by
    rw [Terminated.read, Terminated.untilNul_append hnul]
  have hread :
      (TableCall.sendData connection users payload (some (id ++ 0 :: behind))).read? table =
        some (.onSession connection (.sendData receivers data (Utf8.repair id))) := by
    simp only [TableCall.read?, TableCall.decode?, hreceivers, hdata, hid]
  rw [TableCall.complete?, hread]
  rfl

variable (haccepts : h.registry.Accepts plugin) (hsession : h.session = some s)
  (hlocal : s.localUser = some localUser) (hknown : ∀ id ∈ receivers, s.directory.user? id ≠ none)
include haccepts hsession hlocal hknown

/-- Where nothing else is in its way, a payload is refused for its name or sent. -/
lemma enter_sendData_cases (hfits : data.length ≤ 1000)
    (hrecent : Version.parts ⟨1, 4, 0⟩ ≤ s.link.serverVersion.parts) :
    let entered := table.enter true ⟨h, true⟩ thread plugin
      (.sendData s.connection users payload (some (id ++ 0 :: behind))) targets
    let sent := { h with session := some { s with link := { s.link with
      sent := s.link.sent ++ [⟨localUser, receivers, data, Utf8.repair id⟩] } } }
    (100 < (Utf8.repair id).utf8ByteSize ∧
      entered = ⟨ErrorCode.dataIdTooLong.raw, none, ⟨h, true⟩⟩) ∨
    (¬ 100 < (Utf8.repair id).utf8ByteSize ∧
      entered = ⟨Status.ok, some .unit, ⟨sent, true⟩⟩) := by
  intro entered sent
  have hread := complete?_sendData table targets hreceivers hdata hnul behind s.connection
  have hperform := Host.perform_eq_sendData haccepts hsession hlocal receivers data (Utf8.repair id)
  by_cases hlong : 100 < (Utf8.repair id).utf8ByteSize
  · exact .inl ⟨hlong, enter_of_result table hread
      (hperform.trans (Host.sendData_of_long hfits hlong))⟩
  · exact .inr ⟨hlong, enter_of_result table hread
      (hperform.trans (Host.sendData_of_named hfits (not_lt.1 hlong) hknown hrecent))⟩

/-- **The name of a payload is measured after it was repaired.**  A caller that is accepted sends a
payload in a synchronized session; the payload is not too long, its receivers are known and the
server is recent enough.  Then the payload is refused for its name exactly if the repaired name has
more than a hundred octets, and otherwise it is sent with this name.  A name that is text has as
many octets as were passed, and for it the limit is on these.  Repairing never shortens a name, so
that one of more than a hundred octets is refused whatever they are; but it makes a name up to three
times as long, and only one of at most thirty-three octets is safe whatever they are. -/
theorem enter_sendData_named (hfits : data.length ≤ 1000)
    (hrecent : Version.parts ⟨1, 4, 0⟩ ≤ s.link.serverVersion.parts) :
    let entered := table.enter true ⟨h, true⟩ thread plugin
      (.sendData s.connection users payload (some (id ++ 0 :: behind))) targets
    let sent := { h with session := some { s with link := { s.link with
      sent := s.link.sent ++ [⟨localUser, receivers, data, Utf8.repair id⟩] } } }
    let refused := entered.status = ErrorCode.dataIdTooLong.raw
    (refused ↔ 100 < (Utf8.repair id).utf8ByteSize) ∧
    (∀ text, Utf8.decode? id = some text → (refused ↔ 100 < id.length)) ∧
    (100 < id.length → refused) ∧ (id.length ≤ 33 → ¬ refused) ∧
    (refused → entered.service = ⟨h, true⟩) ∧
    (¬ refused → entered.status = Status.ok ∧ entered.service = ⟨sent, true⟩) := by
  intro entered sent refused
  have hgrows := Utf8.length_le_size_repair id
  have hgrown := Utf8.size_repair_le id
  obtain ⟨hlong, hentered⟩ | ⟨hnamed, hentered⟩ := enter_sendData_cases table thread targets
    hreceivers hdata hnul behind haccepts hsession hlocal hknown hfits hrecent
  · have hrefused : refused := congrArg Entered.status hentered
    refine ⟨iff_of_true hrefused hlong, fun text htext => ?_, fun _ => hrefused, by omega,
      fun _ => congrArg Entered.service hentered, absurd hrefused⟩
    rw [← Utf8.size_repair htext]
    exact iff_of_true hrefused hlong
  · have hok : entered.status = Status.ok := congrArg Entered.status hentered
    have hne : Status.ok ≠ ErrorCode.dataIdTooLong.raw := by decide
    have hrefused : ¬ refused := fun hstatus => hne (hok.symm.trans hstatus)
    refine ⟨iff_of_false hrefused hnamed, fun text htext => ?_, by omega, fun _ => hrefused,
      fun h => absurd h hrefused, fun _ => ⟨hok, congrArg Entered.service hentered⟩⟩
    rw [← Utf8.size_repair htext]
    exact iff_of_false hrefused hnamed

end

/-- A broken octet in a short name is repaired, and the payload is sent. -/
theorem enter_sendData_named_broken :
    let entered := ApiTable.v1_0.enter true ⟨Host.lonely, true⟩ .plugin 3
      (.sendData 0 ⟨some [1, 1], 2⟩ ⟨some [7, 8], 1⟩ (some [0x70, 0xFF, 0])) ⟨false, false⟩
    entered.status = Status.ok ∧
    entered.service.host.session.map (·.link.sent) = some [⟨1, [1, 1], [7], "p\uFFFD"⟩] := by
  intro entered
  have haccepts : Host.lonely.registry.Accepts 3 := by decide
  have hreceivers : Items.read ⟨some [(1 : UserId), 1], 2⟩ = some [1, 1] := rfl
  have hdata : Items.read ⟨some [(7 : UInt8), 8], 1⟩ = some [7] := rfl
  have hnul : (0 : UInt8) ∉ [0x70, 0xFF] := by decide
  obtain ⟨-, -, -, hshort, -, hsent⟩ := enter_sendData_named .v1_0 .plugin ⟨false, false⟩
    hreceivers hdata hnul [] haccepts rfl rfl (fun id hid => by
      obtain rfl : id = 1 := by simpa using hid
      decide +kernel) (by decide) (by decide +kernel)
  obtain ⟨hstatus, hservice⟩ := hsent (hshort (by decide))
  exact ⟨hstatus, congrArg (fun s : Service => s.host.session.map (·.link.sent)) hservice⟩

/-- Thirty-four octets are no more than a hundred, and are refused where none of them is text; one
fewer would have been sent. -/
theorem enter_sendData_refused_broken :
    let enter (id : Bytes) : Entered := ApiTable.v1_0.enter true ⟨Host.lonely, true⟩ .plugin 3
      (.sendData 0 ⟨some [1], 1⟩ ⟨some [0x78], 1⟩ (some (id ++ [0]))) ⟨false, false⟩
    let id : Bytes := List.replicate 34 0xFF
    Host.lonely.registry.Accepts 3 ∧ Host.lonely.session.bind (·.localUser) = some 1 ∧
    (0 : UInt8) ∉ id ∧ (enter (id.drop 1)).status = Status.ok ∧
    ¬ ((enter id).status = ErrorCode.dataIdTooLong.raw ↔ 100 < id.length) := by
  intro enter id
  have haccepts : Host.lonely.registry.Accepts 3 := by decide
  have hnul : (0 : UInt8) ∉ id := by decide
  have hreceivers : Items.read ⟨some [(1 : UserId)], 1⟩ = some [1] := rfl
  have hdata : Items.read ⟨some [(0x78 : UInt8)], 1⟩ = some [0x78] := rfl
  have hcases := fun (id : Bytes) (hnul : (0 : UInt8) ∉ id) =>
    enter_sendData_cases .v1_0 .plugin ⟨false, false⟩ hreceivers hdata hnul [] haccepts rfl rfl
      (fun user huser => by
        obtain rfl : user = 1 := by simpa using huser
        decide +kernel) (by decide) (by decide +kernel)
  refine ⟨haccepts, by decide +kernel, hnul, ?_, fun hiff => ?_⟩
  · obtain ⟨hlong, -⟩ | ⟨-, hentered⟩ := hcases (id.drop 1) (by decide)
    · exact absurd hlong (by decide +kernel)
    · exact congrArg Entered.status hentered
  · obtain ⟨-, hentered⟩ | ⟨hnamed, -⟩ := hcases id hnul
    · exact absurd (hiff.1 (congrArg Entered.status hentered)) (by decide)
    · exact absurd (by decide +kernel) hnamed

end ApiTable
end PluginHost
