import HttpStub.CommandLine.Arguments
import HttpStub.Proofs.Json.Decoded
import HttpStub.Proofs.Server.History
import HttpStub.Proofs.Text.Split

set_option autoImplicit false

/-!
# The backend of a server

Settings that a command line leads to name a backend if their mode needs one. So a server has it in
all states that it gets into from them, and never reports that it is missing.

## Main definitions

* `HttpStub.Backend.IsFor` — the backend of a host, whose slashes at the end do not count.
* `HttpStub.Arguments.oldSettings` — the settings that a command line changes.
* `HttpStub.Server.noBackendNotice` — the event for the log when there is no backend.

## Main results

* `HttpStub.Settings.validate_eq_ok_iff` — the settings that are fit for use.
* `HttpStub.Server.backend?_eq_some_iff` — the backend that requests are sent on to.
* `HttpStub.Server.error_cases` — all errors that a server logs.
* `HttpStub.Server.noBackendNotice_mem_iff` — when a missing backend is reported.
* `HttpStub.Arguments.backend_of_settings` — after a command line no backend is missing.
-/

namespace HttpStub

/-! ## Slashes at the end -/

namespace Backend

/-- The text of the backend is the host without the slashes at its end. -/
structure IsFor (b : Backend) (host : String) : Prop where
  slashes : ∃ rest : String, host = b.base ++ rest ∧ ∀ c ∈ rest.toList, c = '/'
  trimmed : b.base.toList.getLast? ≠ some '/'

/-- The backend of a host has its text without the slashes at the end. -/
lemma isFor_ofText (host : String) : (ofText host).IsFor host where
  slashes := by
    obtain ⟨rest, hhost, hrest⟩ := Text.exists_eq_trimEnd_append (· == '/') host
    exact ⟨rest, hhost, fun c hc => eq_of_beq (hrest c hc)⟩
  trimmed := by
    intro hlast
    exact Text.not_of_mem_getLast?_trimEnd (p := (· == '/')) '/' hlast rfl

/-- Slashes are cut off only once. -/
lemma ofText_base_ofText (host : String) : ofText (ofText host).base = ofText host :=
  congrArg mk (Text.trimEnd_trimEnd _ host)

/-- A text with a scheme is more than slashes. -/
lemma base_ofText_ne_empty {host : String} (h : Settings.hasWebScheme host = true) :
    (ofText host).base ≠ "" := by
  intro hempty
  have hslashes := Text.trimEnd_eq_empty_iff.1 hempty
  have hfirst : 'h' ∈ host.toList := by
    rw [Settings.hasWebScheme, Bool.or_eq_true, List.isPrefixOf_iff_prefix,
      List.isPrefixOf_iff_prefix] at h
    rcases h with h | h
    · exact h.subset (by decide)
    · exact h.subset (by decide)
  exact absurd (hslashes 'h' hfirst) (by decide)

end Backend

/-! ## Settings that are fit for use -/

/-- The modes that need a backend are those that record and that pass requests on. -/
lemma Mode.usesBackend_iff {m : Mode} : m.usesBackend = true ↔ m = .record ∨ m = .proxy := by
  cases m <;> decide

namespace Settings

variable {s t : Settings}

/-- **The settings that are fit for use** have a time limit, and a host with a scheme of HTTP if
their mode needs a backend. They are not changed. -/
lemma validate_eq_ok_iff :
    s.validate = .ok t ↔
      t = s ∧ s.timeoutSeconds ≠ 0 ∧
        (s.mode.usesBackend = true →
          ∃ host, s.proxyHost = some host ∧ hasWebScheme host = true) := by
  unfold validate
  cases hmode : s.mode.usesBackend with
  | false =>
    by_cases htime : s.timeoutSeconds = 0
    · simp [htime]
    · simp [htime, eq_comm (a := s)]
  | true =>
    cases hhost : s.proxyHost with
    | none => simp
    | some host =>
      by_cases hscheme : hasWebScheme host = true
      · by_cases htime : s.timeoutSeconds = 0
        · simp [hscheme, htime]
        · simp [hscheme, htime, eq_comm (a := s)]
      · simp [hscheme]

/-- The backend that settings name is that of their host, if more than slashes is left of it. -/
lemma backend?_eq_some_iff {b : Backend} :
    s.backend? = some b ↔ ∃ host, s.proxyHost = some host ∧ .ofText host = b ∧ b.base ≠ "" := by
  unfold backend?
  cases hhost : s.proxyHost with
  | none => simp
  | some host =>
    simp only [String.isEmpty_iff, Option.some.injEq, exists_eq_left']
    constructor
    · intro h
      obtain ⟨hne, h⟩ := Option.ite_none_left_eq_some.1 h
      obtain rfl := Option.some.inj h
      exact ⟨rfl, hne⟩
    · rintro ⟨rfl, hne⟩
      rw [if_neg hne]

end Settings

namespace Arguments

/-- The settings that a command line changes: those of the file that it names, or else the default
ones. -/
def oldSettings (a : Arguments) (readText : String → Except FileError String) :
    Except SettingsError Settings :=
  match a.config with
  | some path => Settings.ofFile path (readText path)
  | none => .ok .default

/-- The settings of a command line are the old ones with its changes, if these are fit for use. -/
lemma exists_of_settings {a : Arguments} {readText : String → Except FileError String}
    {s : Settings} (h : a.settings readText = .ok s) :
    ∃ old, a.oldSettings readText = .ok old ∧ (a.override old).validate = .ok s := by
  unfold settings at h
  unfold oldSettings
  cases hconfig : a.config with
  | none =>
    rw [hconfig] at h
    exact ⟨.default, rfl, h⟩
  | some path =>
    rw [hconfig] at h
    exact Json.exists_of_bind_eq_ok h

end Arguments

/-! ## Errors in the log -/

/-- None of the events is an error. -/
def Faultless (events : List Event) : Prop :=
  ∀ e ∈ events, e.level ≠ .error

/-- The arrival of a request is no error. -/
lemma faultless_arrivalNotices (r : Request) : Faultless (arrivalNotices r) := by
  simp only [Faultless, arrivalNotices, List.forall_mem_append, List.forall_mem_map]
  refine ⟨⟨by simp, by simp⟩, ?_⟩
  split <;> simp

/-- Headers that are left out of a response are no errors. -/
lemma Reply.faultless_notices (r : Reply) : Faultless r.notices := by
  simp only [Faultless, notices, List.forall_mem_map]
  simp

/-- What is logged of a request before it is sent on is no error. -/
lemma Backend.faultless_notices (b : Backend) (r : Request) : Faultless (b.notices r) := by
  simp [Faultless, notices]

/-- What is logged of a filter is no error, even if its pattern cannot be read. -/
lemma UrlFilter.faultless_notices (f : UrlFilter) (pattern : String) :
    Faultless (f.notices pattern) := by
  cases f <;> simp [Faultless, notices]

namespace Server

variable {s : Server}

/-- The event for the log when there is no backend. -/
def noBackendNotice (mode : Mode) : Event :=
  ⟨.error, "No upstream configured for " ++ mode.name ++ " mode"⟩

/-- **The backend that requests are sent on to** is the one that the settings name, in a mode that
needs one. -/
lemma backend?_eq_some_iff {b : Backend} :
    s.backend? = some b ↔
      s.mode.usesBackend = true ∧
        ∃ host, s.settings.proxyHost = some host ∧ .ofText host = b ∧ b.base ≠ "" := by
  rw [backend?, Option.ite_none_right_eq_some, Option.map_eq_some_iff]
  simp only [Settings.backend?_eq_some_iff]
  refine and_congr_right fun _ => ?_
  constructor
  · rintro ⟨_, ⟨host, hhost, rfl, hne⟩, rfl⟩
    rw [Backend.ofText_base_ofText]
    exact ⟨host, hhost, rfl, hne⟩
  · rintro ⟨host, hhost, rfl, hne⟩
    exact ⟨_, ⟨host, hhost, rfl, hne⟩, Backend.ofText_base_ofText host⟩

/-- Serving a stub logs no error, and neither does having none that fits. -/
lemma faultless_replay (s : Server) (time : String) (r : Request) :
    Faultless (s.replay time r).events := by
  unfold replay
  dsimp only
  split
  · next stub _ _ => simpa [Faultless] using stub.response.faultless_notices
  · simp [Faultless]

/-- A snapshot logs no error. -/
lemma faultless_takeSnapshot (s : Server) (r : SnapshotRequest) :
    Faultless (s.takeSnapshot r).2.1 := by
  have hpersist : Faultless r.persistNotices := by
    unfold SnapshotRequest.persistNotices
    split <;> simp [Faultless]
  have hfilter : Faultless r.filter?.2 := by
    unfold SnapshotRequest.filter?
    split
    · simp [Faultless]
    · exact UrlFilter.faultless_notices _ _
  simp only [takeSnapshot, Faultless, List.forall_mem_append]
  exact ⟨⟨hpersist, hfilter⟩, by simp⟩

/-- The tasks of an administrator log no error. -/
lemma faultless_perform (s : Server) (task : AdminTask) (body : Bytes) :
    Faultless (s.perform task body).events := by
  cases task with
  | addStub =>
    unfold perform performAdd
    dsimp only
    split <;> simp [Faultless]
  | importStubs =>
    unfold perform performImport
    dsimp only
    split <;> simp [Faultless, importNotice]
  | snapshot =>
    unfold perform performSnapshot
    dsimp only
    split
    · refine List.forall_mem_append.2 ⟨?_, faultless_takeSnapshot s _⟩
      unfold SnapshotRequest.ofBody
      split
      · simp
      · split <;> simp
    · simp [Faultless]
  | _ => simp [Faultless, perform, performReset]

/-- A request of an administrator logs no error, whether it names a task or not. -/
lemma faultless_administer (s : Server) (method path : String) (body : Bytes) :
    Faultless (s.administer method path body).events := by
  unfold administer
  split
  · exact faultless_perform _ _ _
  · simp [Faultless]

/-- An error that is logged when a request is sent on. -/
lemma error_cases_relay {d : Delivery} {r : Request} {e : Event}
    (he : e ∈ (s.relay d r).events) (herror : e.level = .error) :
    (s.backend? = none ∧ e = noBackendNotice s.mode) ∨
      ∃ cause : RelayError, e.text = "Proxy error: " ++ cause.message := by
  unfold relay at he
  cases hbackend : s.backend? with
  | none =>
    simp only [hbackend, relayFailure, List.mem_singleton] at he
    exact .inl ⟨rfl, he⟩
  | some b =>
    have hnotice : e ∉ b.notices r := fun h => b.faultless_notices r e h herror
    simp only [hbackend] at he
    split at he
    · next cause _ =>
      simp only [relayFailure, List.mem_append, hnotice, List.mem_singleton, false_or] at he
      exact .inr ⟨cause, congrArg Event.text he⟩
    · next a _ =>
      simp only [List.mem_append, hnotice, false_or] at he
      split_ifs at he
      · obtain rfl := List.mem_singleton.1 he
        cases herror
      · cases he

/-- **All errors that a server logs** tell that a backend is missing, or why it gives no answer. -/
lemma error_cases {time : String} {d : Delivery} {r : Request} {e : Event}
    (he : e ∈ (s.receive time d r).events) (herror : e.level = .error) :
    (isAdminPath r.path = false ∧ s.mode.usesBackend = true ∧ s.backend? = none ∧
        e = noBackendNotice s.mode) ∨
      ∃ cause : RelayError, e.text = "Proxy error: " ++ cause.message := by
  unfold receive at he
  split at he
  · -- a task of an administrator logs no error
    rcases List.mem_cons.1 he with rfl | he
    · cases herror
    · exact absurd herror (faultless_administer s _ _ _ e he)
  · next hadmin =>
    have hserved : e ∈ (if s.mode.usesBackend then s.relay d (s.addressed r)
        else s.replay time (s.addressed r)).events := by
      unfold serve at he
      dsimp only at he
      split at he
      · rcases List.mem_append.1 he with he | he
        · rcases List.mem_append.1 he with he | he
          · exact absurd herror (faultless_arrivalNotices r e he)
          · exact he
        · obtain rfl := List.mem_singleton.1 he
          cases herror
      · exact he
    split at hserved
    · next hmode =>
      exact (error_cases_relay hserved herror).imp_left fun h =>
        ⟨Bool.not_eq_true _ ▸ hadmin, hmode, h⟩
    · exact absurd herror (faultless_replay s _ _ e hserved)

/-- A missing backend is reported with the mode that needs one. -/
lemma noBackendNotice_injective : Function.Injective noBackendNotice := by
  intro m n h
  cases m <;> cases n <;> first | rfl | exact absurd h (by decide)

/-- This report is not mistaken for that of a backend that does not answer. -/
lemma noBackendNotice_text_ne (mode : Mode) (message : String) :
    (noBackendNotice mode).text ≠ "Proxy error: " ++ message := by
  intro h
  have hfirst := congrArg (fun t => t.toList.head?) h
  simp [noBackendNotice] at hfirst

/-- **A missing backend is reported** for the requests that would be sent on to it, and for no
others. -/
lemma noBackendNotice_mem_iff {mode : Mode} {time : String} {d : Delivery} {r : Request} :
    noBackendNotice mode ∈ (s.receive time d r).events ↔
      isAdminPath r.path = false ∧ s.mode.usesBackend = true ∧ s.backend? = none ∧
        s.mode = mode := by
  constructor
  · intro h
    rcases error_cases h rfl with ⟨hadmin, hmode, hbackend, heq⟩ | ⟨cause, htext⟩
    · exact ⟨hadmin, hmode, hbackend, (noBackendNotice_injective heq).symm⟩
    · exact absurd htext (noBackendNotice_text_ne mode _)
  · rintro ⟨hadmin, hmode, hbackend, rfl⟩
    have hrelay : noBackendNotice s.mode ∈ (s.relay d (s.addressed r)).events := by
      unfold relay
      rw [hbackend]
      exact List.mem_singleton_self _
    rw [receive_of_not_admin hadmin]
    unfold serve
    simp only [hmode, if_true]
    split
    · simp [hrelay]
    · exact hrelay

end Server

namespace Arguments

open Server (start noBackendNotice)

/-- A text of the command line counts if it is given and not empty, and else the old one. -/
lemma orOld_eq_some_iff {given old : Option String} {text : String} :
    orOld given old = some text ↔
      given = some text ∧ text ≠ "" ∨ (given = none ∨ given = some "") ∧ old = some text := by
  cases given with
  | none => simp [orOld]
  | some s =>
    by_cases hs : s = ""
    · subst hs
      simp [orOld]
    · have hempty : s.isEmpty = false := by rwa [← Bool.not_eq_true, String.isEmpty_iff]
      simp only [orOld, hempty, Bool.false_eq_true, if_false, Option.some.injEq, reduceCtorEq, hs,
        or_self, false_and, or_false]
      exact ⟨fun h => ⟨h, h ▸ hs⟩, fun h => h.1⟩

/-- **After a command line no backend is missing.** The settings that it leads to have its mode and
its host, where it gives them and the host is not empty, and else those of the file or the default
ones. A server that starts with them has a backend exactly in the modes that need one, after
whatever requests. The backend has the text of the host without the slashes at its end, which is not
empty; and so no request is answered because a backend is missing. -/
theorem backend_of_settings {a : Arguments} {readText : String → Except FileError String}
    {settings : Settings} (h : a.settings readText = .ok settings) (loaded : List Stub)
    (history : List Visit) :
    let s := (start settings loaded).run history
    ∃ old, a.oldSettings readText = .ok old ∧
      s.mode = a.mode.getD old.mode ∧
      (s.backend?.isSome = true ↔ s.mode = .record ∨ s.mode = .proxy) ∧
      (∀ b, s.backend? = some b →
        ∃ host,
          (a.proxyHost = some host ∧ host ≠ "" ∨
            (a.proxyHost = none ∨ a.proxyHost = some "") ∧ old.proxyHost = some host) ∧
          b.IsFor host ∧ b.base ≠ "") ∧
      ∀ mode time d r, noBackendNotice mode ∉ (s.receive time d r).events := by
  intro s
  obtain ⟨old, hold, hvalid⟩ := exists_of_settings h
  obtain ⟨rfl, -, hhost⟩ := Settings.validate_eq_ok_iff.1 hvalid
  have hsettings : s.settings = a.override old := Server.settings_run _ history
  have hmode : s.mode = (a.override old).mode := congrArg Settings.mode hsettings
  have hbackend : s.mode.usesBackend = true → ∃ b, s.backend? = some b := by
    intro huses
    obtain ⟨host, hproxy, hscheme⟩ := hhost (hmode ▸ huses)
    refine ⟨.ofText host, Server.backend?_eq_some_iff.2 ⟨huses, host, ?_, rfl, ?_⟩⟩
    · rw [hsettings, hproxy]
    · exact Backend.base_ofText_ne_empty hscheme
  refine ⟨old, hold, hmode, ?_, ?_, ?_⟩
  · constructor
    · intro hsome
      obtain ⟨b, hb⟩ := Option.isSome_iff_exists.1 hsome
      exact Mode.usesBackend_iff.1 (Server.backend?_eq_some_iff.1 hb).1
    · intro huses
      exact Option.isSome_iff_exists.2 (hbackend (Mode.usesBackend_iff.2 huses))
  · intro b hb
    obtain ⟨-, host, hproxy, rfl, hne⟩ := Server.backend?_eq_some_iff.1 hb
    rw [hsettings] at hproxy
    exact ⟨host, orOld_eq_some_iff.1 hproxy, Backend.isFor_ofText host, hne⟩
  · intro mode time d r hevent
    obtain ⟨-, huses, hnone, -⟩ := Server.noBackendNotice_mem_iff.1 hevent
    obtain ⟨b, hb⟩ := hbackend huses
    rw [hnone] at hb
    cases hb

/-- A command line that names a file, asks for record mode and leaves the host to the file. -/
def recordArguments : Arguments :=
  { blank with mode := some .record, config := some "settings.yaml", proxyHost := some "" }

/-- Settings for record mode, with slashes at the end of the host. -/
def slashesSettings : Settings :=
  { Settings.default with mode := .record, proxyHost := some "http://[::1]//" }

/-- The host of the file is used, and its slashes are not. -/
theorem backend_of_settings_slashes :
    recordArguments.settings (fun _ => .ok "proxyHost: http://[::1]//") = .ok slashesSettings ∧
      ((start slashesSettings []).run []).backend? = some ⟨"http://[::1]"⟩ ∧
      ∀ mode time d r, noBackendNotice mode ∉
        (((start slashesSettings []).run []).receive time d r).events := by
  have hread : Settings.reader.run "proxyHost: http://[::1]//" =
      some { Settings.default with proxyHost := some "http://[::1]//" } := by
    decide +kernel
  have hsettings : recordArguments.settings (fun _ => .ok "proxyHost: http://[::1]//") =
      .ok slashesSettings := by
    simp only [settings, recordArguments, Settings.ofFile, Settings.ofYaml, hread]
    rfl
  obtain ⟨-, -, -, -, -, hevents⟩ := backend_of_settings hsettings [] []
  exact ⟨hsettings, by decide, hevents⟩

end Arguments

end HttpStub
