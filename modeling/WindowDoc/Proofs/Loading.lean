import WindowDoc.Load
import WindowDoc.Proofs.Encoding
import WindowDoc.Proofs.RoundTrip

namespace WindowDoc

-- A file is parsed as the text that its bytes encode.

theorem parseBytes_toUTF8 {σ κ γ : Type} (r : Renderer σ κ γ) (options : Options) (source : String)
    (state : σ) : parseBytes r options source.toUTF8 state = parse r options source state := by
  rw [parseBytes, Utf8.fromUTF8?_toUTF8]

-- A renderer is not even asked where the bytes are no text.
theorem parseBytes_of_not_wellFormed {σ κ γ : Type} {bytes : ByteArray}
    (h : ¬ Utf8.WellFormed bytes.data.toList) (r : Renderer σ κ γ) (options : Options) (state : σ) :
    parseBytes r options bytes state = ⟨⟨.error (.unreadable .invalidUtf8), state⟩, []⟩ := by
  rw [parseBytes, Utf8.fromUTF8?_of_not_wellFormed h]
  rfl

-- A failure as it is told of a named document.
def Failure.within (name : String) : Failure → Failure
  | unparsed _ fault => unparsed (some name) fault
  | other => other

theorem Assembler.harvest_some (name : String) (outcome : Outcome Assembler) :
    harvest (some name) outcome = (harvest none outcome).mapError (Failure.within name) := by
  simp only [harvest]
  split
  · rfl
  · split <;> rfl

theorem value_loadWindow (options : Options) (name : String) (bytes : ByteArray) :
    (loadWindow options name (.ok (.contents bytes))).value =
      Assembler.harvest (some name) (parseBytes Assembler.renderer options bytes .empty).value := by
  simp only [loadWindow, File.parse, Logged.value_bind]
  split <;> rfl

theorem value_loadWindow_toUTF8 (options : Options) (name source : String) :
    (loadWindow options name (.ok (.contents source.toUTF8))).value =
      (parseWindow options source).value.mapError (Failure.within name) := by
  rw [value_loadWindow, parseBytes_toUTF8, Assembler.harvest_some, value_parseWindow_eq]

theorem loadWindow_of_not_wellFormed {bytes : ByteArray}
    (h : ¬ Utf8.WellFormed bytes.data.toList) (options : Options) (name : String) :
    loadWindow options name (.ok (.contents bytes)) =
      ⟨.error (.unparsed (some name) (.unreadable .invalidUtf8)), []⟩ := by
  rw [loadWindow, File.parse, parseBytes_of_not_wellFormed h]
  rfl

-- A document that is accepted leaves a window, so that a fault is all that can go wrong with a text.
theorem exists_fault_of_parseWindow {options : Options} {source : String} {failure : Failure}
    (h : (parseWindow options source).value = .error failure) :
    ∃ fault, failure = .unparsed none fault := by
  cases hresult : (Reading.ofText options.maxNesting source).result with
  | ok _ =>
      obtain ⟨ls, d, -, -, -, hwindow⟩ := exists_parseWindow hresult
      rw [hwindow] at h
      cases h
  | error fault =>
      rw [parseWindow_of_error hresult] at h
      exact ⟨fault, (Except.error.inj h).symm⟩

theorem loadWindow_ne_windowless (options : Options) (name : String)
    (found : Except OpenFault File) :
    (loadWindow options name found).value ≠ .error .windowless := by
  intro h
  obtain reason | file := found
  · cases h
  obtain _ | bytes := file
  · cases h
  by_cases hbytes : Utf8.WellFormed bytes.data.toList
  · obtain ⟨source, rfl⟩ := Utf8.exists_source_iff.mp hbytes
    rw [value_loadWindow_toUTF8] at h
    cases hparsed : (parseWindow options source).value with
    | ok w =>
        rw [hparsed] at h
        cases h
    | error failure =>
        obtain ⟨fault, rfl⟩ := exists_fault_of_parseWindow hparsed
        rw [hparsed] at h
        cases h
  · rw [loadWindow_of_not_wellFormed hbytes] at h
    cases h

-- Bytes are the encoding of a text or they are not well formed. A file with a text in it gives the
-- window that the text gives, or fails as that does while it is parsed. One without is refused
-- before anything is drawn, and no document is ever accepted that leaves no window.
theorem load_agrees_with_parse :
    (∀ bytes : ByteArray,
      Utf8.WellFormed bytes.data.toList ↔ ∃ source : String, bytes = source.toUTF8) ∧
    (∀ (options : Options) (name source : String),
      (∀ w, (loadWindow options name (.ok (.contents source.toUTF8))).value = .ok w ↔
        (parseWindow options source).value = .ok w) ∧
      ∀ failure, (parseWindow options source).value = .error failure → ∃ fault,
        failure = .unparsed none fault ∧ failure.chain = fault.chain ∧
        (loadWindow options name (.ok (.contents source.toUTF8))).value =
          .error (.unparsed (some name) fault) ∧
        (Failure.unparsed (some name) fault).chain = ("parsing " ++ name) :: fault.chain) ∧
    (∀ {σ κ γ : Type} (r : Renderer σ κ γ) (options : Options) (source : String) (state : σ),
      parseBytes r options source.toUTF8 state = parse r options source state) ∧
    (∀ bytes : ByteArray, ¬ Utf8.WellFormed bytes.data.toList →
      (∀ {σ κ γ : Type} (r : Renderer σ κ γ) (options : Options) (state : σ),
        parseBytes r options bytes state = ⟨⟨.error (.unreadable .invalidUtf8), state⟩, []⟩) ∧
      ∀ (options : Options) (name : String), loadWindow options name (.ok (.contents bytes)) =
        ⟨.error (.unparsed (some name) (.unreadable .invalidUtf8)), []⟩) ∧
    (∀ (options : Options) (source : String),
      (parseWindow options source).value ≠ .error .windowless) ∧
    ∀ (options : Options) (name : String) (found : Except OpenFault File),
      (loadWindow options name found).value ≠ .error .windowless := by
  refine ⟨fun _ => Utf8.exists_source_iff, fun options name source => ⟨fun w => ?_, ?_⟩,
    parseBytes_toUTF8, fun bytes hbytes => ⟨parseBytes_of_not_wellFormed hbytes,
      loadWindow_of_not_wellFormed hbytes⟩, fun options source h => ?_, loadWindow_ne_windowless⟩
  · rw [value_loadWindow_toUTF8]
    cases (parseWindow options source).value <;> simp [Except.mapError]
  · intro failure hfailure
    obtain ⟨fault, rfl⟩ := exists_fault_of_parseWindow hfailure
    rw [value_loadWindow_toUTF8, hfailure]
    exact ⟨fault, rfl, rfl, rfl, rfl⟩
  · obtain ⟨fault, hfault⟩ := exists_fault_of_parseWindow h
    cases hfault

end WindowDoc
