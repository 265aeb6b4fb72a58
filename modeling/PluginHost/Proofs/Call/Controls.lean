/-
# The settings show what the client was asked for

How the microphone is activated, and whether the local user is muted or deafened, is up to the
client.  A plugin asks it for a change, and two things are written down then: the request, and the
setting as it will be.  The two are written by separate statements, and the settings have a writer
of their own that takes keys and values.  Still they never come apart (`AudioSettings.Shows`): each
of the three is what the last request for it says, or what it was at the beginning when there is
none.

Of all calls only the three requests touch the three settings, and each touches one of them.
-/
import PluginHost.Proofs.Call.Revision

namespace PluginHost

/-! ## The last request of a kind -/

namespace ClientRequest

/-- How the microphone is to be activated. -/
def mode? : ClientRequest → Option TransmissionMode
  | transmissionMode mode => some mode
  | _ => none

/-- Whether the local user is to be muted. -/
def muted? : ClientRequest → Option Bool
  | mute muted => some muted
  | _ => none

/-- Whether the local user is to be deafened. -/
def deafened? : ClientRequest → Option Bool
  | deaf deafened => some deafened
  | _ => none

/-- What the last request of a kind asks for. -/
def last? {α : Type} (kind? : ClientRequest → Option α) (requests : List ClientRequest) :
    Option α := (requests.filterMap kind?).getLast?

lemma last?_concat {α : Type} (kind? : ClientRequest → Option α) (requests : List ClientRequest)
    (asked : ClientRequest) :
    last? kind? (requests ++ [asked]) = (kind? asked).or (last? kind? requests) := by
  rw [last?, List.filterMap_append]
  cases hkind : kind? asked with
  | none => simp [last?, hkind]
  | some a => simp [hkind]

end ClientRequest

open ClientRequest (last? mode? muted? deafened?)

/-- The settings show what the client was asked for, where they were `initial` before it was asked
for anything. -/
structure AudioSettings.Shows (initial settings : AudioSettings) (requests : List ClientRequest) :
    Prop where
  transmit : settings.transmit = (last? mode? requests).getD initial.transmit
  mute : settings.mute = (last? muted? requests).getD initial.mute
  deaf : settings.deaf = (last? deafened? requests).getD initial.deaf

namespace AudioSettings.Shows

variable {initial settings settings' : AudioSettings} {requests : List ClientRequest}

lemma start (initial : AudioSettings) : initial.Shows initial [] := ⟨rfl, rfl, rfl⟩

/-- Only what belongs to the client matters. -/
lemma of_controls (hshows : initial.Shows settings requests)
    (hcontrols : settings'.controls = settings.controls) : initial.Shows settings' requests := by
  obtain ⟨htransmit, hrest⟩ := Prod.mk.inj hcontrols
  obtain ⟨hmute, hdeaf⟩ := Prod.mk.inj hrest
  exact ⟨htransmit.trans hshows.transmit, hmute.trans hshows.mute, hdeaf.trans hshows.deaf⟩

/-- The settings go with what the client is asked for. -/
lemma applied (hshows : initial.Shows settings requests) (asked : ClientRequest) :
    initial.Shows (asked.applied settings) (requests ++ [asked]) := by
  obtain ⟨htransmit, hmute, hdeaf⟩ := hshows
  constructor
  · rw [ClientRequest.last?_concat]
    cases asked with
    | transmissionMode mode => rfl
    | _ => exact htransmit
  · rw [ClientRequest.last?_concat]
    cases asked with
    | mute muted => rfl
    | _ => exact hmute
  · rw [ClientRequest.last?_concat]
    cases asked with
    | deaf deafened => rfl
    | _ => exact hdeaf

end AudioSettings.Shows

/-! ## The host -/

namespace Host

/-- The settings of the host show what its client was asked for. -/
def Shows (initial : AudioSettings) (h : Host) : Prop :=
  initial.Shows h.settings (h.client.getD [])

/-- In `h'` there are no controls of a client either, and what belongs to the client is as it was in
`h`. -/
def Detached (h h' : Host) : Prop :=
  h'.client = none ∧ h'.settings.controls = h.settings.controls

variable {h : Host} {plugin : PluginId} {call : Call} {outcome : Outcome}

lemma Deed.shows (hdeed : Deed h plugin call outcome) {initial : AudioSettings}
    (hshows : h.Shows initial) : outcome.host.Shows initial := by
  cases hdeed with
  | spared hhost hsilent => rwa [part_eq (Shows initial) (fun _ => rfl) hhost]
  | annotated hsynchronized hentry hfetched hhost =>
    rwa [part_eq (Shows initial) (fun _ => rfl) hhost]
  | published hsynchronized hrecord hclient =>
    rw [Shows, hclient] at hshows
    exact hshows.applied (.comment _ _)
  | asked hclient hparcel =>
    rw [Shows, hclient] at hshows
    exact hshows.applied _
  | tuned hcontrols hsilent => exact AudioSettings.Shows.of_controls hshows hcontrols
  | joined | sent | muted | logged | played => exact hshows

lemma Deed.detached (hdeed : Deed h plugin call outcome) (hnone : h.client = none) :
    h.Detached outcome.host := by
  cases hdeed with
  | spared hhost hsilent =>
    rw [part_eq (Detached h) (fun _ => rfl) hhost]
    exact ⟨hnone, rfl⟩
  | annotated hsynchronized hentry hfetched hhost =>
    rw [part_eq (Detached h) (fun _ => rfl) hhost]
    exact ⟨hnone, rfl⟩
  | published hsynchronized hrecord hclient =>
    rw [hnone] at hclient
    cases hclient
  | asked hclient hparcel =>
    rw [hnone] at hclient
    cases hclient
  | tuned hcontrols hsilent => exact ⟨hnone, hcontrols⟩
  | joined | sent | muted | logged | played => exact ⟨hnone, rfl⟩

end Host

/-! ## Requests -/

namespace Service

variable {s : Service}

lemma serve_running (s : Service) (r : PluginRequest) :
    (s.serve r).service.running = s.running := by
  obtain ⟨hservice, -⟩ | ⟨call, -, hservice, -⟩ := s.serve_performed r <;> rw [hservice]
  rfl

lemma serveAll_shows {initial : AudioSettings} (hshows : s.host.Shows initial)
    (rs : List PluginRequest) : (s.serveAll rs).2.host.Shows initial :=
  s.serveAll_related (fun h h' => h.Shows initial → h'.Shows initial) (fun _ => id)
    (fun hdeed => hdeed.shows) (fun h₁ h₂ => h₂ ∘ h₁) rs hshows

lemma serveAll_detached (hnone : s.host.client = none) (rs : List PluginRequest) :
    s.host.Detached (s.serveAll rs).2.host := by
  refine s.serveAll_related (fun h h' => h.client = none → h.Detached h')
    (fun _ hnone => ⟨hnone, rfl⟩) Host.Deed.detached ?_ rs hnone
  intro h h' h'' h₁ h₂ hnone
  obtain ⟨hnone', hcontrols⟩ := h₁ hnone
  obtain ⟨hnone'', hcontrols'⟩ := h₂ hnone'
  exact ⟨hnone'', hcontrols'.trans hcontrols⟩

lemma serveAll_running (s : Service) (rs : List PluginRequest) :
    (s.serveAll rs).2.running = s.running := by
  induction rs generalizing s with
  | nil => rfl
  | cons r rs ih => exact (ih _).trans (s.serve_running r)

/-- A call that is answered and changes nothing. -/
lemma serve_of_answer (hrunning : s.running = true) {r : PluginRequest} {call : Call}
    (hcall : r.call? = some call) {reply : Reply}
    (hperform : s.host.perform r.plugin call = s.host.answer reply) :
    s.serve r = ⟨Status.ok, some reply, s⟩ := serve_of_result hrunning hcall hperform

/-- **The settings never come apart from what the client was asked for.**  If the client has been
asked for nothing at the beginning, then after any requests the transmission mode, the mute and the
deafening are those of the last recorded request for each of them, or the initial ones; this is also
what accepted plugins are told.  Without controls of a client the three never change. -/
theorem serveAll_controls (s : Service) (hclient : s.host.client.getD [] = [])
    (rs : List PluginRequest) :
    let after := (s.serveAll rs).2
    let requests := after.host.client.getD []
    let mode := (last? mode? requests).getD s.host.settings.transmit
    let muted := (last? muted? requests).getD s.host.settings.mute
    let deafened := (last? deafened? requests).getD s.host.settings.deaf
    (after.host.settings.transmit = mode ∧ after.host.settings.mute = muted ∧
      after.host.settings.deaf = deafened) ∧
    (s.running = true → ∀ r : PluginRequest, s.host.registry.Accepts r.plugin →
      (r.call? = some .getLocalUserTransmissionMode →
        after.serve r = ⟨Status.ok, some (.mode mode), after⟩) ∧
      (r.call? = some .isLocalUserMuted → after.serve r = ⟨Status.ok, some (.flag muted), after⟩) ∧
      (r.call? = some .isLocalUserDeafened →
        after.serve r = ⟨Status.ok, some (.flag deafened), after⟩)) ∧
    (s.host.client = none → after.host.client = none ∧
      after.host.settings.transmit = s.host.settings.transmit ∧
      after.host.settings.mute = s.host.settings.mute ∧
      after.host.settings.deaf = s.host.settings.deaf) := by
  intro after requests mode muted deafened
  have hstart : s.host.Shows s.host.settings := by
    rw [Host.Shows, hclient]
    exact .start _
  have hshows := serveAll_shows hstart rs
  have htransmit : after.host.settings.transmit = mode := hshows.transmit
  have hmute : after.host.settings.mute = muted := hshows.mute
  have hdeaf : after.host.settings.deaf = deafened := hshows.deaf
  refine ⟨⟨htransmit, hmute, hdeaf⟩, fun hrunning r haccepts => ?_, fun hnone => ?_⟩
  · have hrunning' : after.running = true := (s.serveAll_running rs).trans hrunning
    have haccepts' : after.host.registry.Accepts r.plugin := by
      rwa [(s.serveAll_steady rs).registry_eq]
    refine ⟨fun hcall => ?_, fun hcall => ?_, fun hcall => ?_⟩
    · rw [← htransmit]
      exact serve_of_answer hrunning' hcall (Host.perform_of_accepts haccepts' _)
    · rw [← hmute]
      exact serve_of_answer hrunning' hcall (Host.perform_of_accepts haccepts' _)
    · rw [← hdeaf]
      exact serve_of_answer hrunning' hcall (Host.perform_of_accepts haccepts' _)
  · obtain ⟨hnone', hcontrols⟩ := serveAll_detached hnone rs
    obtain ⟨htransmit', hrest⟩ := Prod.mk.inj hcontrols
    obtain ⟨hmute', hdeaf'⟩ := Prod.mk.inj hrest
    exact ⟨hnone', htransmit', hmute', hdeaf'⟩

/-- The local user is muted, deafened and unmuted, while a plugin also writes settings by their
keys. -/
theorem serveAll_controls_bashful :
    let ask (call : Call) : PluginRequest := ⟨.plugin, 3, .entry .v1_2 (.plain call) ⟨true, false⟩⟩
    let after := ((⟨.bashful, true⟩ : Service).serveAll
      [ask (.requestLocalUserMute true), ask (.requestLocalUserDeaf true),
        ask (.setSetting .voiceHold (.int 200)), ask (.requestLocalUserMute false)]).2
    after.host.client = some [.mute true, .deaf true, .mute false] ∧
      after.serve (ask .isLocalUserMuted) = ⟨Status.ok, some (.flag false), after⟩ ∧
      after.serve (ask .isLocalUserDeafened) = ⟨Status.ok, some (.flag true), after⟩ := by
  intro ask after
  obtain ⟨-, hgetters, -⟩ := serveAll_controls ⟨.bashful, true⟩ rfl
    [ask (.requestLocalUserMute true), ask (.requestLocalUserDeaf true),
      ask (.setSetting .voiceHold (.int 200)), ask (.requestLocalUserMute false)]
  have haccepts : Host.bashful.registry.Accepts 3 := by decide
  have hasked : after.host.client = some [.mute true, .deaf true, .mute false] := by decide +kernel
  have hmuted := (hgetters rfl (ask .isLocalUserMuted) haccepts).2.1 rfl
  have hdeafened := (hgetters rfl (ask .isLocalUserDeafened) haccepts).2.2 rfl
  rw [show ((⟨.bashful, true⟩ : Service).serveAll _).2 = after from rfl, hasked] at hmuted hdeafened
  exact ⟨hasked, hmuted, hdeafened⟩

end Service

end PluginHost
