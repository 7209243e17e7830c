import TracedService.CommandLine.Program
import TracedService.Proofs.Settings.Validity

/-! From the settings to the server. The address is read when the settings are checked and once
more, long after tracing has been activated, when the server is made; the settings that get that far
are those of which it can be read. -/

namespace TracedService.CommandLine

open Settings (Field NamesLevel)

variable {a : Arguments} {env : Environment} {files : String → FileContent} {s : Settings}
  {address : SocketAddress} {c : Call} {p : ProcessState} {r : Running}

namespace Arguments

/-- Settings under the level that a command line asks for. -/
def override (a : Arguments) (s : Settings) : Settings :=
  a.logLevel.elim s s.withLevel

theorem override_serverAddress (a : Arguments) (s : Settings) :
    (a.override s).serverAddress = s.serverAddress := by
  unfold override
  cases a.logLevel <;> rfl

theorem settings_eq_ok_iff : a.settings env files = .ok s ↔
    ∃ loaded, Settings.load env (files a.path) = .ok loaded ∧ a.override loaded = s ∧
      s.validate = .ok () := by
  unfold settings override
  rw [bind_eq_ok]
  refine exists_congr fun loaded => and_congr_right fun hload => ?_
  have hvalid := Settings.validate_of_load hload
  cases a.logLevel with
  | none =>
    constructor
    · rintro ⟨⟩
      exact ⟨rfl, hvalid⟩
    · rintro ⟨rfl, -⟩
      rfl
  | some level =>
    simp only [bind_eq_ok]
    constructor
    · rintro ⟨_, hvalid, ⟨⟩⟩
      exact ⟨rfl, hvalid⟩
    · rintro ⟨rfl, hvalid⟩
      exact ⟨(), hvalid, rfl⟩

end Arguments

theorem makeServer_of_listenAddress (h : s.listenAddress = .ok address) (guard : Guard) :
    makeServer s guard p = .ok ⟨s, address, p, guard,
      ProcessState.instrument guard (Server.routes s.identity)⟩ := by
  unfold makeServer
  rw [h]

theorem startService_eq_ok_iff (h : s.listenAddress = .ok address) :
    startService s p = .ok r ↔ ∃ guard q,
      p.install (bootstrapOf s p.surroundings.env) = (some (.ok guard), q) ∧
        r = ⟨s, address, q.attach guard, guard,
          ProcessState.instrument guard (Server.routes s.identity)⟩ := by
  unfold startService
  match p.install (bootstrapOf s p.surroundings.env) with
  | (none, q) => simp
  | (some (.error f), q) => simp
  | (some (.ok guard), q) =>
    simp only [makeServer_of_listenAddress h, Except.ok.injEq, Prod.mk.injEq, Option.some.injEq]
    constructor
    · rintro rfl
      exact ⟨guard, q, ⟨rfl, rfl⟩, rfl⟩
    · rintro ⟨_, _, ⟨rfl, rfl⟩, rfl⟩
      rfl

theorem surroundings_say (p : ProcessState) (ns : List Notice) :
    (p.say ns).surroundings = p.surroundings := by
  induction ns generalizing p with
  | nil => rfl
  | cons n ns ih =>
    refine (ih (p.log n.event)).trans ?_
    unfold ProcessState.log
    split <;> rfl

theorem start_eq_startService (hread : Invocation.read c.arguments = .ok (.run a))
    (hsettings : a.settings c.surroundings.env c.files = .ok s) :
    ∃ p, p.surroundings = c.surroundings ∧ start c = startService s p := by
  unfold start
  rw [hread]
  simp only [hsettings]
  exact ⟨_, surroundings_say _ _, rfl⟩

/-- What is loaded can be served. The address that was read when the settings were checked is read
again when the server is made, under any level that the command line asks for, so that from the
installation of tracing on nothing fails because of it. A check passes exactly if each of the four
fields is sound by itself and else tells the first one that is not; it does not look at tracing, and
of a level it accepts ASCII only, although letters past ASCII have small letters in ASCII. Settings
that were loaded are as good under another level as that level is. -/
theorem settings_served :
    (∀ (a : Arguments) (env : Environment) (files : String → FileContent) (s : Settings),
      a.settings env files = .ok s → ∃ loaded address,
        Settings.load env (files a.path) = .ok loaded ∧ a.override loaded = s ∧
        SocketAddress.read? loaded.serverAddress = some address ∧
        s.listenAddress = .ok address ∧
        (∀ p r, startService s p = .ok r ↔ ∃ guard q,
          p.install (bootstrapOf s p.surroundings.env) = (some (.ok guard), q) ∧
            r = ⟨s, address, q.attach guard, guard,
              ProcessState.instrument guard (Server.routes s.identity)⟩) ∧
        ∀ c : Call, Invocation.read c.arguments = .ok (.run a) → c.surroundings.env = env →
          c.files = files → ∃ p, p.surroundings = c.surroundings ∧ start c = startService s p) ∧
    (∀ s : Settings,
      (s.validate = .ok () ↔ ∀ field : Field, field.Sound s) ∧
      (∀ e, s.validate = .error e ↔
        ∃ field : Field, field.FirstUnsound s ∧ .rule (field.fault s) = e) ∧
      ∀ tracing : Option TracingSettings, { s with tracing }.validate = s.validate) ∧
    (∀ text, NamesLevel text → ∀ c ∈ text.toList, Text.isAscii c = true) ∧
    (∀ (env : Environment) (file : FileContent) (s : Settings) (level : String),
      Settings.load env file = .ok s →
        (s.withLevel level).validate =
          if NamesLevel level then .ok () else .error (.rule (.badLevel level))) := by
  refine ⟨?_, ?_, fun _ => NamesLevel.isAscii, ?_⟩
  · intro a env files s hsettings
    obtain ⟨loaded, hload, hoverride, hvalid⟩ := Arguments.settings_eq_ok_iff.mp hsettings
    obtain ⟨address, haddress⟩ := Settings.validate_eq_ok_iff.mp hvalid .address
    have hlisten := Settings.listenAddress_eq_ok_iff.mpr haddress
    rw [← hoverride, Arguments.override_serverAddress] at haddress
    refine ⟨loaded, address, hload, hoverride, haddress, hlisten, ?_, ?_⟩
    · exact fun p r => startService_eq_ok_iff hlisten
    · rintro c hread rfl rfl
      exact start_eq_startService hread hsettings
  · exact fun s => ⟨Settings.validate_eq_ok_iff, fun e => Settings.validate_eq_error_iff,
      fun tracing => rfl⟩
  · exact fun env file s level hload =>
      Settings.validate_withLevel (Settings.validate_of_load hload) level

/-- A command line that asks for a level in capitals, with a file that says no more than it must. -/
def loudCall : Call where
  arguments := ["--log-level", "WARN"]
  files := fun _ =>
    .ofText "server: \x7baddress: '127.0.0.1:80'\x7d\nservice: \x7bname: orders\x7d\n"
  surroundings := {}
  network := .isolated
  ids := ⟨fun _ => 1, fun _ => 1⟩

def quietSettings : Settings where
  serverAddress := "127.0.0.1:80"
  identity := { name := "orders", environment := "", module := "" }

theorem settings_served_loud :
    (⟨none, some "WARN"⟩ : Arguments).settings {} loudCall.files =
        .ok (quietSettings.withLevel "WARN") ∧
      (quietSettings.withLevel "WARN").listenAddress = .ok (.v4 [127, 0, 0, 1] 80) ∧
      (∃ p, p.surroundings = loudCall.surroundings ∧
        start loudCall = startService (quietSettings.withLevel "WARN") p) ∧
      (quietSettings.withLevel "\u0130nfo").validate = .error (.rule (.badLevel "\u0130nfo")) := by
  have hload : Settings.load {} (loudCall.files Arguments.defaultConfig) = .ok quietSettings :=
    ok_of_toOption (by decide +kernel)
  obtain ⟨hserved, -, -, hlevel⟩ := settings_served
  have hvalid : (quietSettings.withLevel "WARN").validate = .ok () :=
    (hlevel _ _ _ _ hload).trans (if_pos (by decide +kernel))
  have hsettings := Arguments.settings_eq_ok_iff.mpr
    ⟨quietSettings, hload, (rfl : (⟨none, some "WARN"⟩ : Arguments).override _ = _), hvalid⟩
  obtain ⟨loaded, address, hloaded, -, haddress, hlisten, -, hstart⟩ :=
    hserved _ _ _ _ hsettings
  obtain rfl : quietSettings = loaded := Except.ok.inj (hload.symm.trans hloaded)
  have hparsed :
      SocketAddress.read? quietSettings.serverAddress = some (.v4 [127, 0, 0, 1] 80) := by
    decide +kernel
  obtain rfl : address = .v4 [127, 0, 0, 1] 80 := Option.some.inj (haddress.symm.trans hparsed)
  exact ⟨hsettings, hlisten, hstart loudCall rfl rfl rfl,
    (hlevel _ _ _ _ hload).trans (if_neg (by decide +kernel))⟩

end TracedService.CommandLine
