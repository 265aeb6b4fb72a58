/-
# What a call can do to the host

Whatever a plugin calls, there are few things that can come of it.  The call is refused, or the
log crashes on it, and the host is left alone; it is answered, and something about the host may
have changed, but nothing about what is lent; it gives a buffer, which is entered last of all;
or it frees one.  This file says so once, for all calls (`perform_effect`).

From it follows that the ledger of a host stays consistent, whatever is called and whatever
happens around the host in between (`Reachable.consistent`).
-/
import PluginHost.Call.Service
import PluginHost.Proofs.Ledger.Consistency

namespace PluginHost

namespace Host

/-- What can become of a call by `plugin` on the host `h`. -/
inductive Effect (h : Host) (plugin : PluginId) : Outcome → Prop
  /-- The call is refused, and the host is left alone.  That no result came in time is not for the
  host to say. -/
  | refused (code : ErrorCode) (hcode : code ≠ .apiRequestTimeout) :
      Effect h plugin (h.refuse code)
  /-- The log crashes, and the host is left alone. -/
  | crashed : Effect h plugin ⟨none, h⟩
  /-- The call is answered without a buffer. -/
  | answered (host : Host) (reply : Reply) (hledger : host.ledger = h.ledger)
      (hallocator : host.allocator = h.allocator) : Effect h plugin (host.answer reply)
  /-- A buffer is lent, after all else has been done. -/
  | lent (host : Host) (name : String) (contents : Contents) (hledger : host.ledger = h.ledger)
      (hallocator : host.allocator = h.allocator) : Effect h plugin (host.lend plugin name contents)
  /-- A buffer is freed. -/
  | freed (address : Address) (ledger : Ledger)
      (hrelease : h.ledger.release address = (.ok (), ledger)) :
      Effect h plugin ({ h with ledger := ledger }.answer .unit)
  /-- There is no buffer to be freed. -/
  | missed (address : Address) (code : ErrorCode) (ledger : Ledger)
      (hrelease : h.ledger.release address = (.error code, ledger)) :
      Effect h plugin ({ h with ledger := ledger }.refuse code)

/-! ## Refusals -/

section Refusals

variable {h : Host} {code : ErrorCode}

lemma connection_ne_timeout {handle : ConnectionHandle}
    (hconnection : h.connection handle = .error code) : code ≠ .apiRequestTimeout := by
  unfold connection at hconnection
  split at hconnection
  · cases hconnection
    decide
  · split at hconnection
    · cases hconnection
    · cases hconnection
      decide

lemma synchronized_ne_timeout {handle : ConnectionHandle}
    (hsynchronized : h.synchronized handle = .error code) : code ≠ .apiRequestTimeout := by
  unfold synchronized at hsynchronized
  split at hsynchronized
  · next hconnection =>
    cases hsynchronized
    exact connection_ne_timeout hconnection
  · split at hsynchronized
    · cases hsynchronized
      decide
    · cases hsynchronized

lemma verifyPlugin_ne_timeout {plugin : PluginId}
    (hverify : h.verifyPlugin plugin = .error code) : code ≠ .apiRequestTimeout := by
  unfold verifyPlugin at hverify
  split at hverify
  · cases hverify
  · cases hverify
    decide

lemma resolve_ne_timeout {blobs : BlobStore} {text : String} {hash : Bytes}
    (hresolve : resolve blobs text hash = .error code) : code ≠ .apiRequestTimeout := by
  unfold resolve at hresolve
  split at hresolve
  · cases hresolve
  · split at hresolve
    · cases hresolve
      decide
    · cases hresolve
      decide
    · cases hresolve

lemma set_ne_timeout {settings : AudioSettings} {key : SettingsKey} {value : SettingValue}
    (hset : settings.set key value = .error code) : code ≠ .apiRequestTimeout := by
  unfold AudioSettings.set at hset
  split at hset <;> cases hset <;> decide

lemma release_ne_timeout {ledger ledger' : Ledger} {address : Address}
    (hrelease : ledger.release address = (.error code, ledger')) : code ≠ .apiRequestTimeout := by
  unfold Ledger.release at hrelease
  split at hrelease
  · cases hrelease
    decide
  · dsimp only at hrelease
    split at hrelease
    · cases hrelease
      decide
    · cases hrelease

end Refusals

/-! ## Every call -/

variable (h : Host) (plugin : PluginId)

lemma sendData_effect (s : Session) (localUser : UserId) (receivers : List UserId)
    (data : Bytes) (dataId : String) :
    Effect h plugin (h.sendData s localUser receivers data dataId) := by
  unfold sendData
  split
  · exact .refused _ (by decide)
  split
  · exact .refused _ (by decide)
  split
  · exact .refused _ (by decide)
  split
  · exact .refused _ (by decide)
  · exact .answered _ _ rfl rfl

lemma request_effect (asked : ClientRequest) (settings : AudioSettings) :
    Effect h plugin (h.request asked settings) := by
  unfold request
  split
  · exact .refused _ (by decide)
  · exact .answered _ _ rfl rfl

lemma readSetting_effect (kind : SettingKind) (key : SettingsKey) :
    Effect h plugin (h.readSetting plugin kind key) := by
  unfold readSetting
  split
  · exact .refused _ (by decide)
  · split
    · exact .answered _ _ rfl rfl
    · exact .answered _ _ rfl rfl
    · exact .answered _ _ rfl rfl
    · exact .lent _ _ _ rfl rfl
    · exact .refused _ (by decide)

lemma performOnSession_effect (s : Session) (localUser : UserId) (call : SessionCall) :
    Effect h plugin (h.performOnSession plugin s localUser call) := by
  cases call with
  | getLocalUserId => exact .answered _ _ rfl rfl
  | getUserName user =>
    simp only [performOnSession]
    split
    · exact .refused _ (by decide)
    · exact .lent _ _ _ rfl rfl
  | getChannelName channel =>
    simp only [performOnSession]
    split
    · exact .refused _ (by decide)
    · exact .lent _ _ _ rfl rfl
  | getAllUsers => exact .lent _ _ _ rfl rfl
  | getAllChannels => exact .lent _ _ _ rfl rfl
  | getChannelOfUser user =>
    simp only [performOnSession]
    split
    · exact .refused _ (by decide)
    · split
      · exact .refused _ (by decide)
      · exact .answered _ _ rfl rfl
  | getUsersInChannel channel =>
    simp only [performOnSession]
    split
    · exact .refused _ (by decide)
    · exact .lent _ _ _ rfl rfl
  | isUserLocallyMuted user =>
    simp only [performOnSession]
    split
    · exact .refused _ (by decide)
    · exact .answered _ _ rfl rfl
  | getUserHash user =>
    simp only [performOnSession]
    split
    · exact .refused _ (by decide)
    · exact .lent _ _ _ rfl rfl
  | getServerHash => exact .lent _ _ _ rfl rfl
  | getUserComment user =>
    simp only [performOnSession]
    split
    · exact .refused _ (by decide)
    · split
      · next hcode => exact .refused _ (resolve_ne_timeout hcode)
      · exact .lent _ _ _ rfl rfl
      · -- the text is written into the directory, and only then lent
        exact .lent _ _ _ rfl rfl
  | getChannelDescription channel =>
    simp only [performOnSession]
    split
    · exact .refused _ (by decide)
    · split
      · next hcode => exact .refused _ (resolve_ne_timeout hcode)
      · exact .lent _ _ _ rfl rfl
      · exact .lent _ _ _ rfl rfl
  | requestUserMove user channel password =>
    simp only [performOnSession]
    split
    · exact .refused _ (by decide)
    · exact .refused _ (by decide)
    · split
      · exact .answered _ _ rfl rfl
      · exact .answered _ _ rfl rfl
  | requestLocalMute user muted =>
    simp only [performOnSession]
    split
    · exact .refused _ (by decide)
    · split
      · exact .refused _ (by decide)
      · exact .answered _ _ rfl rfl
  | requestSetLocalUserComment comment =>
    simp only [performOnSession]
    split
    · exact .refused _ (by decide)
    · exact .refused _ (by decide)
    · exact .answered _ _ rfl rfl
  | findUserByName name =>
    simp only [performOnSession]
    split
    · exact .refused _ (by decide)
    · exact .answered _ _ rfl rfl
  | findChannelByName name =>
    simp only [performOnSession]
    split
    · exact .refused _ (by decide)
    · exact .answered _ _ rfl rfl
  | sendData receivers data dataId =>
    exact h.sendData_effect plugin s localUser receivers data dataId

lemma performAccepted_effect (call : Call) :
    Effect h plugin (h.performAccepted plugin call) := by
  cases call with
  | freeMemory address =>
    simp only [performAccepted]
    split
    · next code ledger hrelease => exact .missed address code ledger hrelease
    · next ledger hrelease => exact .freed address ledger hrelease
  | verifyCaller => exact .answered _ _ rfl rfl
  | getActiveServerConnection =>
    simp only [performAccepted]
    split
    · exact .refused _ (by decide)
    · exact .answered _ _ rfl rfl
  | isConnectionSynchronized connection =>
    simp only [performAccepted]
    split
    · next hcode => exact .refused _ (connection_ne_timeout hcode)
    · exact .answered _ _ rfl rfl
  | onSession connection call =>
    simp only [performAccepted]
    split
    · next hcode => exact .refused _ (synchronized_ne_timeout hcode)
    · exact h.performOnSession_effect plugin _ _ call
  | getLocalUserTransmissionMode => exact .answered _ _ rfl rfl
  | isLocalUserMuted => exact .answered _ _ rfl rfl
  | isLocalUserDeafened => exact .answered _ _ rfl rfl
  | requestLocalUserTransmissionMode mode =>
    simp only [performAccepted]
    split
    · exact .refused _ (by decide)
    · exact h.request_effect plugin _ _
  | requestMicrophoneActivationOverwrite activate => exact .answered _ _ rfl rfl
  | requestLocalUserMute muted => exact h.request_effect plugin _ _
  | requestLocalUserDeaf deafened => exact h.request_effect plugin _ _
  | getSetting kind key => exact h.readSetting_effect plugin kind key
  | setSetting key value =>
    simp only [performAccepted]
    split
    · next hcode => exact .refused _ (set_ne_timeout hcode)
    · exact .answered _ _ rfl rfl
  | log message =>
    simp only [performAccepted]
    split
    · exact .refused _ (by decide)
    · split
      · exact .crashed
      · exact .answered _ _ rfl rfl
  | playSample path volume =>
    simp only [performAccepted]
    split
    · exact .refused _ (by decide)
    · split
      · exact .refused _ (by decide)
      · exact .answered _ _ rfl rfl

/-- What can become of any call. -/
lemma perform_effect (call : Call) : Effect h plugin (h.perform plugin call) := by
  unfold perform
  split
  · exact h.performAccepted_effect plugin call
  · split
    · next hcode => exact .refused _ (verifyPlugin_ne_timeout hcode)
    · exact h.performAccepted_effect plugin call

variable {h plugin}

lemma lend_ne_timeout (name : String) (contents : Contents) :
    (h.lend plugin name contents).result ≠ some (.error .apiRequestTimeout) := by
  rcases hregister : h.ledger.register ⟨h.allocator.fresh, contents⟩ plugin name with
    _ | ⟨handle, ledger⟩
  · simp [lend, Ledger.lend, hregister, refuse]
  · simp [lend, Ledger.lend, hregister, answer]

/-- The result of a call is never the one that stands for none in time. -/
lemma Effect.result_ne_timeout {outcome : Outcome} (heffect : Effect h plugin outcome) :
    outcome.result ≠ some (.error .apiRequestTimeout) := by
  intro htimeout
  cases heffect with
  | refused code hcode =>
    cases htimeout
    exact hcode rfl
  | crashed => cases htimeout
  | answered host reply hledger hallocator => cases htimeout
  | lent host name contents hledger hallocator => exact lend_ne_timeout name contents htimeout
  | freed address ledger hrelease => cases htimeout
  | missed address code ledger hrelease =>
    cases htimeout
    exact release_ne_timeout hrelease rfl

/-! ## The ledger of a host -/

lemma lend_ledger (name : String) (contents : Contents) :
    (h.lend plugin name contents).host.ledger =
      (h.ledger.lend h.allocator.fresh contents plugin name).2 := by
  -- a ledger that refuses a buffer is left as it was
  rcases hregister : h.ledger.register ⟨h.allocator.fresh, contents⟩ plugin name with
    _ | ⟨handle, ledger⟩
  · simp [lend, Ledger.lend, hregister, refuse]
  · simp [lend, Ledger.lend, hregister, answer]

lemma Effect.consistent {outcome : Outcome} (heffect : Effect h plugin outcome)
    (hconsistent : h.ledger.Consistent) : outcome.host.ledger.Consistent := by
  cases heffect with
  | refused code hcode => exact hconsistent
  | crashed => exact hconsistent
  | answered host reply hledger hallocator =>
    change host.ledger.Consistent
    rw [hledger]
    exact hconsistent
  | lent host name contents hledger hallocator =>
    rw [lend_ledger, hledger]
    exact hconsistent.lend _ _ _ _
  | freed address ledger hrelease =>
    have hafter := hconsistent.release address
    rw [hrelease] at hafter
    exact hafter
  | missed address code ledger hrelease =>
    have hafter := hconsistent.release address
    rw [hrelease] at hafter
    exact hafter

/-- The hosts that come about.  A host begins without a session, with whichever of the other
parts of a client.  Sessions begin and are synchronized, users and channels come and go, texts
become known, plugins are registered and forgotten, settings and files change, memory is given to
others, and plugins call.  The host itself can lend a text; when it stops it frees what is still
lent. -/
inductive Reachable : Host → Prop
  | new (registry : Registry) (settings : AudioSettings) (blobs : BlobStore) (log : PluginLog)
      (client : Option (List ClientRequest)) (audio : Option AudioOutput)
      (allocator : Allocator) :
      Reachable { Host.new registry settings with
        blobs := blobs, log := log, client := client, audio := audio, allocator := allocator }
  | connect {h : Host} (link : Link) (directory : Directory) :
      Reachable h → Reachable (h.connect link directory).2
  | synchronize {h : Host} (user : UserId) : Reachable h → Reachable (h.synchronize user).2
  | mapDirectory {h : Host} (change : Directory → Directory) :
      Reachable h → Reachable (h.mapDirectory change)
  | insertBlob {h : Host} (hash content : Bytes) :
      Reachable h → Reachable { h with blobs := h.blobs.insert hash content }
  | setRegistry {h : Host} (registry : Registry) :
      Reachable h → Reachable { h with registry := registry }
  | setSettings {h : Host} (settings : AudioSettings) :
      Reachable h → Reachable { h with settings := settings }
  | setFiles {h : Host} (files : FileView) :
      Reachable h → Reachable { h with audio := h.audio.map fun o => { o with files := files } }
  | setAllocator {h : Host} (allocator : Allocator) :
      Reachable h → Reachable { h with allocator := allocator }
  | lend {h : Host} (plugin : PluginId) (name text : String) :
      Reachable h → Reachable (h.lend plugin name (.ofText text)).host
  | close {h : Host} : Reachable h → Reachable { h with ledger := h.ledger.close.2 }
  | perform {h : Host} (plugin : PluginId) (call : Call) :
      Reachable h → Reachable (h.perform plugin call).host

lemma synchronize_ledger (user : UserId) : (h.synchronize user).2.ledger = h.ledger := by
  unfold synchronize
  split <;> rfl

/-- The ledger of a host is always consistent. -/
lemma Reachable.consistent (hreach : Reachable h) : h.ledger.Consistent := by
  induction hreach with
  | new => exact Ledger.consistent_empty
  | connect link directory _ ih => exact ih
  | synchronize user _ ih =>
    rw [synchronize_ledger]
    exact ih
  | mapDirectory change _ ih => exact ih
  | insertBlob hash content _ ih => exact ih
  | setRegistry registry _ ih => exact ih
  | setSettings settings _ ih => exact ih
  | setFiles files _ ih => exact ih
  | lend plugin name text _ ih =>
    exact (Effect.lent _ name (.ofText text) rfl rfl : Effect _ plugin _).consistent ih
  | close _ _ => exact Ledger.consistent_empty
  | setAllocator allocator _ ih => exact ih
  | perform plugin call _ ih => exact (perform_effect _ plugin call).consistent ih

/-- A host with one plugin, whose session is synchronized and has one user. -/
def lonely : Host :=
  (((new (.ofConfig ⟨true, [⟨3, "Scout", none, true⟩]⟩)
      ⟨20, ⟨0⟩, ⟨0⟩, ⟨0⟩, ⟨0⟩, ⟨0⟩, ⟨0⟩, .continuous, false, false, false, 0⟩).connect
    (.new ⟨1, 5, 0⟩ [1, 2])
    (.ofRecords [⟨0, "Root", "", []⟩] [⟨1, "Me", "0", "", [], some 0, false⟩])).2.synchronize 1).2

lemma reachable_lonely : lonely.Reachable :=
  .synchronize 1 (.connect _ _ (.new _ _ .empty .diagnostics none none .new))

end Host

/-! ## Calls through a service -/

namespace Service

variable {s : Service} (thread : Thread) (plugin : PluginId) (call : Call)

/-- A host that has stopped fails every call. -/
lemma call_of_stopped (hstopped : s.running = false) :
    s.call thread plugin call = (some (.error .internalError), s) := by
  simp [Service.call, submit, hstopped, Promise.await, Promise.new]

/-- A caller that waits long enough gets the result of its call. -/
lemma call_of_result (hrunning : s.running = true) {result : CallResult Reply} {host : Host}
    (hperform : s.host.perform plugin call = ⟨some result, host⟩) :
    s.call thread plugin call = (some result, s.withHost host) := by
  simp [Service.call, submit, hrunning, hperform, Promise.new, Promise.await]

/-- A caller on a thread of its own waits in vain for a call that crashes. -/
lemma call_of_crash (hrunning : s.running = true) {host : Host}
    (hperform : s.host.perform plugin call = ⟨none, host⟩) :
    s.call thread plugin call =
      (if thread = .host then none else some (.error .apiRequestTimeout), s.withHost host) := by
  cases thread with
  | host => simp [Service.call, submit, hrunning, hperform, Promise.new]
  | plugin => simp [Service.call, submit, hrunning, hperform, Promise.new, Promise.await]

/-- However the call ends, the host has done what the call does. -/
lemma call_service (hrunning : s.running = true) :
    (s.call thread plugin call).2 = s.withHost (s.host.perform plugin call).host := by
  rcases hperform : s.host.perform plugin call with ⟨_ | result, host⟩
  · rw [call_of_crash thread plugin call hrunning hperform]
  · rw [call_of_result thread plugin call hrunning hperform]

end Service

end PluginHost
