import ShaderInterface.Proofs.Correspondence
import ShaderInterface.Proofs.QuestionOrder
import ShaderInterface.Reflection.Reflect

/-!
# Asking a provider

A provider has effects of its own, so it matters not only what it answers but also how often it is
asked and for what. Bytes that are no whole number of words are refused before it is asked. Else it
is asked once, for the words that the bytes stand for, and its answer settles the rest.
-/

namespace ShaderInterface

/-- Every reflection has the bytes of the module in it. -/
theorem Reflector.map_code_reflect (reflector : Reflector) (code : List UInt8) :
    Except.map (fun reflection => { reflection with code }) <$> (reflector.reflect code).run =
      (reflector.reflect code).run := by
  apply Logged.ext
  · change Except.map _ (reflector.reflect code).outcome = (reflector.reflect code).outcome
    cases houtcome : (reflector.reflect code).outcome with
    | error => rfl
    | ok reflection =>
        have hcode := (reflector.outcome_reflect_eq_ok.mp houtcome).code
        rw [Except.map, ← hcode]
  · exact List.append_nil _

namespace Provider

variable {m : Type → Type} [Monad m] [MonadLiftT Logged m]

/-- The note that a reflection begins with. -/
def opening (code : List UInt8) : Logged Unit :=
  Logged.note .trace s!"reflect_with(bytes.len(): {code.length})"

/-- What follows the answer of a provider. Why it has read no module is passed on as it is, and a
module is reflected. -/
def conclude (code : List UInt8) (options : ReflectOptions) :
    Answer Introspection → m (Except ReflectError Reflection)
  | .error error => pure (.error (.parse error.text))
  | .ok module => liftM (({ module, options } : Reflector).reflect code).run

variable [LawfulMonad m] (provider : Provider m) {code : List UInt8} {options : ReflectOptions}

theorem run_reflect_of_uneven (huneven : code.length % 4 ≠ 0) :
    (provider.reflect code options).run =
      liftM (opening code) >>= fun _ => pure (.error (.malformedInput code.length)) := by
  have hpack : Word.pack? code = none := if_neg huneven
  simp only [Provider.reflect, ExceptT.run_bind, ExceptT.run_lift, bind_map_left, hpack]
  rfl

theorem run_reflect_unpack (words : List UInt32) :
    (provider.reflect (Word.unpack words) options).run =
      liftM (opening (Word.unpack words)) >>= fun _ =>
        provider.parse words >>= conclude (Word.unpack words) options := by
  simp only [Provider.reflect, ExceptT.run_bind, ExceptT.run_lift, bind_map_left,
    Word.pack?_unpack]
  apply bind_congr
  intro _
  apply bind_congr
  intro answer
  cases answer with
  | error => rfl
  | ok => rfl

/-! ## How often it is asked -/

theorem run_conclude (answer : Answer Introspection) (calls : List (List UInt32)) :
    (conclude code options answer : StateT (List (List UInt32)) m _).run calls =
      (·, calls) <$> (conclude code options answer : m _) := by
  cases answer with
  | error => simp only [conclude, StateT.run_pure, map_pure]
  | ok => simp only [conclude, StateT.run_monadLift, bind_pure_comp]

omit [MonadLiftT Logged m] in
theorem run_parse_recording (words : List UInt32) (calls : List (List UInt32)) :
    (provider.recording.parse words).run calls =
      (·, calls ++ [words]) <$> provider.parse words := by
  simp only [recording, StateT.run_bind, StateT.run_modify, StateT.run_monadLift, monadLift_self,
    pure_bind, bind_pure_comp]

theorem run_recording_of_uneven (huneven : code.length % 4 ≠ 0) (calls : List (List UInt32)) :
    (provider.recording.reflect code options).run.run calls =
      (·, calls) <$> (provider.reflect code options).run := by
  simp only [run_reflect_of_uneven _ huneven, StateT.run_bind, StateT.run_monadLift,
    StateT.run_pure, map_bind, map_pure, bind_assoc, pure_bind]

theorem run_recording_unpack (words : List UInt32) (calls : List (List UInt32)) :
    (provider.recording.reflect (Word.unpack words) options).run.run calls =
      (·, calls ++ [words]) <$> (provider.reflect (Word.unpack words) options).run := by
  simp only [run_reflect_unpack, StateT.run_bind, StateT.run_monadLift, run_parse_recording,
    run_conclude, map_bind, bind_map_left, bind_assoc, pure_bind]

/-- Every reflection has the bytes of the module in it. -/
theorem map_code_reflect [LawfulMonadLiftT Logged m] :
    Except.map (fun reflection => { reflection with code }) <$>
        (provider.reflect code options).run =
      (provider.reflect code options).run := by
  by_cases hwhole : code.length % 4 = 0
  · obtain ⟨words, rfl, -⟩ := Word.exists_eq_unpack hwhole
    rw [run_reflect_unpack, map_bind]
    apply bind_congr
    intro _
    rw [map_bind]
    apply bind_congr
    intro answer
    cases answer with
    | error => exact map_pure _ _
    | ok => simp only [conclude, ← monadLift_map, Reflector.map_code_reflect]
  · rw [run_reflect_of_uneven _ hwhole, map_bind]
    apply bind_congr
    intro _
    exact map_pure _ _

/-- A provider is asked for whole words only, and then exactly once.

Bytes that are no whole number of words are refused with their length, and the provider is not
asked. Otherwise there is one call, with the words that have these bytes. The text of a refusal is
passed on, and nothing is done after that. Every reflection that comes out has the bytes in it. -/
theorem reflect_asksOnce [LawfulMonadLiftT Logged m] (provider : Provider m) (code : List UInt8)
    (options : ReflectOptions) :
    (code.length % 4 ≠ 0 →
      (provider.reflect code options).run =
        (liftM (opening code) >>= fun _ => pure (.error (.malformedInput code.length))) ∧
      ∀ calls, (provider.recording.reflect code options).run.run calls =
        (·, calls) <$> (provider.reflect code options).run) ∧
    (code.length % 4 = 0 → ∃ words, words.length = code.length / 4 ∧ Word.unpack words = code ∧
      (provider.reflect code options).run =
        (liftM (opening code) >>= fun _ => provider.parse words >>= conclude code options) ∧
      ∀ calls, (provider.recording.reflect code options).run.run calls =
        (·, calls ++ [words]) <$> (provider.reflect code options).run) ∧
    Except.map (fun reflection => { reflection with code }) <$>
        (provider.reflect code options).run =
      (provider.reflect code options).run := by
  refine ⟨?_, ?_, provider.map_code_reflect⟩
  · intro huneven
    exact ⟨provider.run_reflect_of_uneven huneven, provider.run_recording_of_uneven huneven⟩
  · intro hwhole
    obtain ⟨words, rfl, hlength⟩ := Word.exists_eq_unpack hwhole
    exact ⟨words, hlength, rfl, provider.run_reflect_unpack words,
      provider.run_recording_unpack words⟩

/-- A provider that knows a module in a single word and refuses all others. -/
def grudging : Provider Logged where
  parse words :=
    pure (if words = [1] then .ok Module.empty.introspection else .error ⟨"bad magic"⟩)

theorem reflect_asksOnce_grudging :
    (∀ calls, (grudging.recording.reflect [7] {}).run.run calls =
      (·, calls) <$> (grudging.reflect [7] {}).run) ∧
    (∃ words, words.length = 1 ∧ Word.unpack words = [2, 0, 0, 0] ∧
      ∀ calls, (grudging.recording.reflect [2, 0, 0, 0] {}).run.run calls =
        (·, calls ++ [words]) <$> (grudging.reflect [2, 0, 0, 0] {}).run) ∧
    Reflecting.outcome (grudging.reflect [2, 0, 0, 0] {}) = .error (.parse "bad magic") ∧
    Except.map (fun reflection => { reflection with code := [1, 0, 0, 0] }) <$>
        (grudging.reflect [1, 0, 0, 0] {}).run =
      (grudging.reflect [1, 0, 0, 0] {}).run := by
  obtain ⟨huneven, -, -⟩ := reflect_asksOnce grudging [7] {}
  obtain ⟨-, hrefused, -⟩ := reflect_asksOnce grudging [2, 0, 0, 0] {}
  obtain ⟨-, -, hcode⟩ := reflect_asksOnce grudging [1, 0, 0, 0] {}
  obtain ⟨words, hlength, hwords, -, hcalls⟩ := hrefused rfl
  exact ⟨(huneven (by decide)).2, ⟨words, hlength, hwords, hcalls⟩, rfl, hcode⟩

end Provider

/-! ## The provider that decodes -/

namespace Reflector

/-- A module that is read already can only fail to answer a question. -/
theorem exists_query_of_outcome {reflector : Reflector} {code : List UInt8} {error : ReflectError}
    (herror : (reflector.reflect code).outcome = .error error) :
    ∃ context text, error = .query context text := by
  have hasks : errorOf? (reflector.reflect code).outcome =
      reflector.module.firstRefusal? reflector.inquiries := reflector.asks_reflect code
  rw [herror] at hasks
  obtain ⟨inquiry, -, hrefusal⟩ := List.exists_of_findSome?_eq_some hasks.symm
  obtain ⟨failure, -, rfl⟩ := Option.map_eq_some_iff.mp hrefusal
  exact ⟨inquiry.context, failure.text, rfl⟩

end Reflector

namespace Decoder

variable (decoder : Decoder)

theorem readBytes_unpack (words : List UInt32) :
    decoder.readBytes (Word.unpack words) = decoder.readWords words := by
  rw [readBytes, Word.pack?_unpack]

theorem readBytes_of_uneven {code : List UInt8} (huneven : code.length % 4 ≠ 0) :
    decoder.readBytes code = throw (.unevenBytes code.length) := by
  rw [readBytes, Word.pack?, if_neg huneven]

theorem outcome_provider_of_uneven {code : List UInt8} (huneven : code.length % 4 ≠ 0)
    (options : ReflectOptions) :
    Reflecting.outcome (decoder.provider.reflect code options) =
      .error (.malformedInput code.length) := by
  rw [Reflecting.outcome, Provider.run_reflect_of_uneven _ huneven]
  rfl

theorem value_parse_provider (words : List UInt32) : (decoder.provider.parse words).value =
    Module.answer ((decoder.readWords words).run.value.map Module.introspection) :=
  rfl

/-- Whole words are read as a module, and the module is reflected. -/
theorem outcome_provider_of_whole {code : List UInt8} (hwhole : code.length % 4 = 0)
    (options : ReflectOptions) :
    Reflecting.outcome (decoder.provider.reflect code options) =
      ((decoder.readBytes code).run.value.mapError fun error => .parse error.message) >>=
        fun module => ((module.reflector options).reflect code).outcome := by
  obtain ⟨words, rfl, -⟩ := Word.exists_eq_unpack hwhole
  rw [Reflecting.outcome, Provider.run_reflect_unpack, Logged.value_bind, Logged.value_bind,
    value_parse_provider, readBytes_unpack]
  cases (decoder.readWords words).run.value with
  | error => rfl
  | ok => rfl

variable {decoder}

/-- Bytes that are reflected are those of a module. -/
theorem exists_module_of_outcome {code : List UInt8} {options : ReflectOptions}
    {reflection : Reflection}
    (hreflection : Reflecting.outcome (decoder.provider.reflect code options) = .ok reflection) :
    ∃ module, (decoder.readBytes code).run.value = .ok module ∧
      ((module.reflector options).reflect code).outcome = .ok reflection := by
  by_cases hwhole : code.length % 4 = 0
  · rw [outcome_provider_of_whole decoder hwhole] at hreflection
    obtain ⟨module, hmodule, hreflected⟩ := bind_eq_ok.mp hreflection
    refine ⟨module, ?_, hreflected⟩
    cases hread : (decoder.readBytes code).run.value with
    | error => simp [hread, Except.mapError] at hmodule
    | ok => simpa [hread, Except.mapError] using hmodule
  · rw [outcome_provider_of_uneven decoder hwhole] at hreflection
    cases hreflection

/-- A reflection ends in the reason why the bytes are no module if and only if they are none. -/
theorem outcome_reflect_eq_parse {code : List UInt8} (hwhole : code.length % 4 = 0)
    {text : String} : (decoder.reflect code).outcome = .error (.parse text) ↔
      ∃ error, (decoder.readBytes code).run.value = .error error ∧ error.message = text := by
  have houtcome : (decoder.reflect code).outcome = _ := outcome_provider_of_whole decoder hwhole {}
  rw [houtcome]
  cases (decoder.readBytes code).run.value with
  | error error => simp [Except.mapError]
  | ok module =>
      constructor
      · intro hparse
        obtain ⟨context, reason, hquery⟩ := Reflector.exists_query_of_outcome hparse
        cases hquery
      · intro hrefused
        obtain ⟨error, herror, -⟩ := hrefused
        cases herror

variable (decoder)

/-- Reading bytes and reflecting them agree, whatever decodes the words.

Bytes that are no whole number of words are refused by both. Otherwise a reflection fails for the
reason why the bytes are no module if and only if they are none, and it is the reflection of the
module if they are one. The bytes of words are read as the words are. -/
theorem reflect_readsBytes (code : List UInt8) :
    (code.length % 4 ≠ 0 →
      (decoder.readBytes code).run.value = .error (.unevenBytes code.length) ∧
      (ModuleError.unevenBytes code.length).kind = .invalidModule ∧
      (decoder.reflect code).outcome = .error (.malformedInput code.length)) ∧
    (code.length % 4 = 0 →
      (∀ text, (decoder.reflect code).outcome = .error (.parse text) ↔
        ∃ error, (decoder.readBytes code).run.value = .error error ∧ error.message = text) ∧
      ∀ module, (decoder.readBytes code).run.value = .ok module →
        (decoder.reflect code).outcome = ((module.reflector {}).reflect code).outcome) ∧
    ∀ words, decoder.readBytes (Word.unpack words) = decoder.readWords words := by
  refine ⟨?_, ?_, decoder.readBytes_unpack⟩
  · intro huneven
    rw [readBytes_of_uneven decoder huneven]
    exact ⟨rfl, rfl, outcome_provider_of_uneven decoder huneven {}⟩
  · intro hwhole
    refine ⟨fun text => outcome_reflect_eq_parse hwhole, ?_⟩
    intro module hmodule
    have houtcome : (decoder.reflect code).outcome = _ :=
      outcome_provider_of_whole decoder hwhole {}
    rw [houtcome, hmodule]
    rfl

/-- The bytes of a module that declares nothing. -/
def bareHeader : List UInt8 :=
  Word.unpack [0x07230203, 0x00010000, 0, 1, 0]

theorem reflect_readsBytes_bareHeader :
    (tabulated.readBytes [7]).run.value = .error (.unevenBytes 1) ∧
    (tabulated.reflect [7]).outcome = .error (.malformedInput 1) ∧
    (tabulated.readBytes [0, 0, 0, 0]).run.value =
      .error (.undecodable (Fault.headerIncomplete 4).message) ∧
    (tabulated.reflect [0, 0, 0, 0]).outcome =
      .error (.parse (ModuleError.undecodable (Fault.headerIncomplete 4).message).message) ∧
    (tabulated.readBytes bareHeader).run.value = .ok { version := ⟨1, 0⟩ } ∧
    (tabulated.reflect bareHeader).outcome =
      ((Module.reflector { version := ⟨1, 0⟩ } {}).reflect bareHeader).outcome := by
  obtain ⟨huneven, -, -⟩ := reflect_readsBytes tabulated [7]
  obtain ⟨-, hrefused, -⟩ := reflect_readsBytes tabulated [0, 0, 0, 0]
  obtain ⟨-, hread, -⟩ := reflect_readsBytes tabulated bareHeader
  obtain ⟨hbytes, -, hmalformed⟩ := huneven (by decide)
  refine ⟨hbytes, hmalformed, rfl, ?_, rfl, (hread rfl).2 _ rfl⟩
  exact ((hrefused rfl).1 _).mpr ⟨_, rfl, rfl⟩

end Decoder

end ShaderInterface
