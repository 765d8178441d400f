import TokenEndpoint.Exchange
import TokenEndpoint.Proofs.Blanks
import TokenEndpoint.Proofs.NumberTexts
import TokenEndpoint.Proofs.Runs
/-!
What settings come from sources, and which of them an exchanger is created from. Main statements:

* `Settings.ofSources_eq_ok_iff` -- the settings of given sources, field by field;
* `Settings.validate_eq_ok_iff` -- what validation lets pass;
* `Exchanger.creationChecks_iff_not_nan` -- every exchanger that is created has a timeout above zero, but
  for a timeout that is no number;
* `Run.sound_takeAll` -- and keeps it in every run.
-/

namespace TokenEndpoint

namespace Settings

/-! ## 1. Settings of sources -/

/-- A field has this value: the default if the sources give none, else what the given value becomes. -/
def Sources.Sets {α : Type} (s : Sources) (name : String) (coerce : Json → Except FieldProblem α)
    (default value : α) : Prop :=
  s.value? name = none ∧ value = default ∨
    ∃ given, s.value? name = some given ∧ coerce given = .ok value

/-- Without a fault a field has the value that the sources give it. -/
theorem Sources.field_eq_iff {α : Type} {s : Sources} {name : String}
    {coerce : Json → Except FieldProblem α} {default value : α} :
    s.field name coerce default = (value, []) ↔ s.Sets name coerce default value := by
  rw [field, Sets]
  cases s.value? name with
  | none => simp [eq_comm]
  | some given => cases hcoerce : coerce given <;> simp [hcoerce]

/-- The settings that sources give, field by field. -/
structure Sources.Gives (s : Sources) (settings : Settings) : Prop where
  httpTimeoutSeconds : s.Sets "http_timeout_seconds" Coercion.toFloat
    ({} : Settings).httpTimeoutSeconds settings.httpTimeoutSeconds
  verifySsl : s.Sets "verify_ssl" Coercion.toBool ({} : Settings).verifySsl settings.verifySsl
  clientSku : s.Sets "client_sku" Coercion.toPlainText ({} : Settings).clientSku settings.clientSku
  clientVersion : s.Sets "client_version" Coercion.toPlainText ({} : Settings).clientVersion
    settings.clientVersion
  returnCorrelationId : s.Sets "return_correlation_id" Coercion.toBool
    ({} : Settings).returnCorrelationId settings.returnCorrelationId
  logPii : s.Sets "log_pii" Coercion.toBool ({} : Settings).logPii settings.logPii
  telemetryEnabled : s.Sets "telemetry_enabled" Coercion.toBool ({} : Settings).telemetryEnabled
    settings.telemetryEnabled
  unforeseen : s.unforeseen = []

theorem ofSources_eq_ok_iff {s : Sources} {settings : Settings} :
    ofSources s = .ok settings ↔ s.Gives settings := by
  constructor
  · intro h
    unfold ofSources at h
    dsimp only at h
    split at h
    · next hnone =>
      simp only [List.isEmpty_iff, List.append_eq_nil_iff, List.map_eq_nil_iff] at hnone
      obtain ⟨⟨⟨⟨⟨⟨⟨h₁, h₂⟩, h₃⟩, h₄⟩, h₅⟩, h₆⟩, h₇⟩, hforeseen⟩ := hnone
      cases h
      exact ⟨Sources.field_eq_iff.mp (Prod.ext rfl h₁), Sources.field_eq_iff.mp (Prod.ext rfl h₂),
        Sources.field_eq_iff.mp (Prod.ext rfl h₃), Sources.field_eq_iff.mp (Prod.ext rfl h₄),
        Sources.field_eq_iff.mp (Prod.ext rfl h₅), Sources.field_eq_iff.mp (Prod.ext rfl h₆),
        Sources.field_eq_iff.mp (Prod.ext rfl h₇), hforeseen⟩
    · cases h
  · intro h
    obtain ⟨h₁, h₂, h₃, h₄, h₅, h₆, h₇, hforeseen⟩ := h
    rw [ofSources]
    dsimp only
    rw [Sources.field_eq_iff.mpr h₁, Sources.field_eq_iff.mpr h₂, Sources.field_eq_iff.mpr h₃,
      Sources.field_eq_iff.mpr h₄, Sources.field_eq_iff.mpr h₅, Sources.field_eq_iff.mpr h₆,
      Sources.field_eq_iff.mpr h₇, hforeseen]
    rfl

/-- The value that the sources give for the timeout, or the default. -/
def Sources.timeout (s : Sources) : Json :=
  (s.value? "http_timeout_seconds").getD (.float ({} : Settings).httpTimeoutSeconds)

theorem Sources.Gives.toFloat_timeout {s : Sources} {settings : Settings} (h : s.Gives settings) :
    Coercion.toFloat s.timeout = .ok settings.httpTimeoutSeconds := by
  rw [timeout]
  rcases h.httpTimeoutSeconds with ⟨hnone, hvalue⟩ | ⟨given, hgiven, hvalue⟩
  · rw [hnone, hvalue]
    rfl
  · rw [hgiven]
    exact hvalue

/-! ## 2. Valid settings -/

variable {settings : Settings}

/-- The name of the client is not blank. -/
def Named (settings : Settings) : Prop :=
  ∃ c ∈ settings.clientSku.toList, Text.isBlank c = false

/-- Settings as an exchanger needs them: a timeout above zero, and a name. -/
structure Sound (settings : Settings) : Prop where
  timeout : 0 < settings.httpTimeoutSeconds
  named : settings.Named

/-- **What validation lets pass**: a timeout above zero, but also one that is no number. -/
theorem validate_eq_ok_iff :
    settings.validate = .ok () ↔
      (0 < settings.httpTimeoutSeconds ∨ settings.httpTimeoutSeconds.isNaN = true) ∧ settings.Named := by
  rw [validate, ← Decimal.Binary.not_le_zero_iff, Named, ← Text.isBlankText_eq_false_iff]
  by_cases hle : settings.httpTimeoutSeconds ≤ 0
  · simp [hle]
  · cases hblank : Text.isBlankText settings.clientSku <;> simp [hle]

/-- Validation faults the configuration. -/
theorem configuration_of_validate {failure : Failure} (h : settings.validate = .error failure) :
    ∃ fault, failure = .configuration fault := by
  rw [validate] at h
  split at h
  · exact ⟨_, (Except.error.inj h).symm⟩
  · split at h
    · exact ⟨_, (Except.error.inj h).symm⟩
    · cases h

end Settings

/-! ## 3. Exchangers -/

namespace Exchanger

/-- Creation checks some settings: it takes them only if they are sound, else it faults the
configuration. -/
structure CreationChecks (settings : Settings) (telemetry : Option Telemetry) : Prop where
  sound : ∀ e, create settings telemetry = .ok e → e.settings.Sound
  refused : ¬ settings.Sound → ∃ fault, create settings telemetry = .error (.configuration fault)

variable {settings : Settings} (telemetry : Option Telemetry)

/-- Creation gives an exchanger with the settings, or faults the configuration. -/
theorem create_cases :
    (settings.validate = .ok () ∧ ∃ e, create settings telemetry = .ok e ∧ e.settings = settings) ∨
      ∃ fault, create settings telemetry = .error (.configuration fault) := by
  cases hvalid : settings.validate with
  | ok => exact .inl ⟨rfl, _, create_eq_ok_iff.mpr ⟨hvalid, rfl⟩, rfl⟩
  | error failure =>
    obtain ⟨fault, rfl⟩ := Settings.configuration_of_validate hvalid
    exact .inr ⟨fault, by rw [create, hvalid]; rfl⟩

theorem creationChecks_iff :
    CreationChecks settings telemetry ↔
      ¬ (settings.httpTimeoutSeconds.isNaN = true ∧ settings.Named) := by
  constructor
  · intro hchecks ⟨hnan, hnamed⟩
    have hvalid := Settings.validate_eq_ok_iff.mpr ⟨.inr hnan, hnamed⟩
    have htimeout := (hchecks.sound _ (create_eq_ok_iff.mpr ⟨hvalid, rfl⟩)).timeout
    rw [Decimal.Binary.zero_lt_iff, (Decimal.Binary.isNaN_iff _).mp hnan] at htimeout
    exact Decimal.Binary.not_above_nan htimeout
  · intro hnot
    have hsound (hvalid : settings.validate = .ok ()) : settings.Sound := by
      obtain ⟨htimeout, hnamed⟩ := Settings.validate_eq_ok_iff.mp hvalid
      exact ⟨htimeout.resolve_right fun hnan => hnot ⟨hnan, hnamed⟩, hnamed⟩
    refine ⟨fun e he => ?_, fun hunsound => ?_⟩
    · obtain ⟨hvalid, rfl⟩ := create_eq_ok_iff.mp he
      exact hsound hvalid
    · rcases create_cases telemetry with ⟨hvalid, -⟩ | hrefused
      · exact absurd (hsound hvalid) hunsound
      · exact hrefused

/-- **Creation checks settings, but for a timeout that is no number.** Settings of any sources are checked
exactly if they do not have a timeout that is given as no number next to a name: then an exchanger is
created from them as from sound ones. They are sound exactly if the timeout is given as a number above
zero, infinity among them, and the name is not blank. -/
theorem creationChecks_iff_not_nan {s : Settings.Sources} (h : Settings.ofSources s = .ok settings) :
    (CreationChecks settings telemetry ↔ ¬ (Coercion.GivesNan s.timeout ∧ settings.Named)) ∧
      ((∃ e, create settings telemetry = .ok e ∧ e.settings = settings) ↔
        (Coercion.GivesPositive s.timeout ∨ Coercion.GivesNan s.timeout) ∧ settings.Named) ∧
      (settings.Sound ↔ Coercion.GivesPositive s.timeout ∧ settings.Named) := by
  have htimeout := (Settings.ofSources_eq_ok_iff.mp h).toFloat_timeout
  rw [creationChecks_iff, ← Coercion.isNaN_iff_of_toFloat htimeout,
    ← Coercion.zero_lt_iff_of_toFloat htimeout, ← Settings.validate_eq_ok_iff]
  refine ⟨Iff.rfl, ⟨?_, fun hvalid => ?_⟩, fun hsound => ⟨hsound.timeout, hsound.named⟩,
    fun ⟨htime, hnamed⟩ => ⟨htime, hnamed⟩⟩
  · intro h
    obtain ⟨e, he, -⟩ := h
    exact (create_eq_ok_iff.mp he).1
  · exact ⟨_, create_eq_ok_iff.mpr ⟨hvalid, rfl⟩, rfl⟩

/-- A timeout from the environment, where only a text can be given. -/
theorem creationChecks_iff_not_nan_environment :
    let s : Settings.Sources := { environment := [("TOKEN_EXCHANGE_HTTP_TIMEOUT_SECONDS", " NaN ")] }
    ∃ settings, Settings.ofSources s = .ok settings ∧ Coercion.GivesNan s.timeout ∧ settings.Named ∧
      ¬ CreationChecks settings none ∧ ∃ e, create settings none = .ok e ∧ e.settings = settings := by
  intro s
  have hread : (Settings.ofSources s).toOption.map (fun t => (t.httpTimeoutSeconds.isNaN, t.clientSku)) =
      some (true, "token-exchange-py") := by decide +kernel
  obtain ⟨settings, hsettings, hfields⟩ := Option.map_eq_some_iff.mp hread
  obtain ⟨hisNaN, hsku⟩ := Prod.mk.inj hfields
  have h : Settings.ofSources s = .ok settings := toOption_eq_some.mp hsettings
  have hnan : Coercion.GivesNan s.timeout :=
    (Coercion.isNaN_iff_of_toFloat (Settings.ofSources_eq_ok_iff.mp h).toFloat_timeout).mp hisNaN
  have hnamed : settings.Named := ⟨'t', by rw [hsku]; decide, by decide⟩
  obtain ⟨hsaid, hcreated, -⟩ := creationChecks_iff_not_nan none h
  exact ⟨settings, h, hnan, hnamed, fun hall => hsaid.mp hall ⟨hnan, hnamed⟩,
    hcreated.mpr ⟨.inr hnan, hnamed⟩⟩

end Exchanger

/-- **What was checked at the creation holds throughout a run**: no command changes the settings. -/
theorem Run.sound_takeAll {settings : Settings} {telemetry : Option Telemetry} {e : Exchanger}
    (hcreate : Exchanger.create settings telemetry = .ok e)
    (hchecks : Exchanger.CreationChecks settings telemetry) (w : RunSurroundings) (ids : IdSupply)
    (commands : List Command) :
    (takeAll w { exchanger := e, ids } commands).1.exchanger.settings.Sound := by
  rw [exchanger_takeAll]
  exact hchecks.sound e hcreate

end TokenEndpoint
