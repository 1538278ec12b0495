import WindowDoc.Proofs.RoundTrip

namespace WindowDoc

namespace Window

theorem WellFormed.mono {limit more : Nat} {w : Window} (hmore : limit ≤ more)
    (h : w.WellFormed limit) : w.WellFormed more :=
  { h with depth_le := Nat.le_trans h.depth_le hmore }

-- Windows can be told apart by what is printed for them.
theorem WellFormed.source_eq_iff {limit limit' : Nat} {w w' : Window} (h : w.WellFormed limit)
    (h' : w'.WellFormed limit') : w.source = w'.source ↔ w = w' := by
  refine ⟨fun hsource => ?_, congrArg source⟩
  let options : Options := ⟨.streaming, max limit limit'⟩
  have hread : (parseWindow options w.source).value = .ok w :=
    (h.mono (Nat.le_max_left limit limit')).parseWindow_source options
  have hread' : (parseWindow options w'.source).value = .ok w' :=
    (h'.mono (Nat.le_max_right limit limit')).parseWindow_source options
  rw [hsource, hread'] at hread
  exact (Except.ok.inj hread).symm

-- Issuing the calls for a window shows it.
theorem windows_issueAll (w : Window) (hfilled : Widget.GroupsFilledAll w.children) :
    (Replay.issueAll Assembler.renderer (w.calls 0 0) ⟨.empty, [], []⟩).value.state.windows =
      #[w] := by
  obtain ⟨calls, hcalls, hfollows, -⟩ :=
    (Replay.Follows.start .empty).performAll Assembler.renderer w.events
  rw [Recording.state_performAll_window] at hcalls
  have hsame : w.calls 0 0 = calls := by
    simpa [Recording.extend, Scene.start, Recording.empty] using hcalls
  rw [hsame, hfollows.state,
    Assembler.state_performAll_window Assembler.pendingNumbered_empty w hfilled]
  rfl

-- So they can be told apart by their calls as well.
theorem calls_eq_iff {w w' : Window} (hfilled : Widget.GroupsFilledAll w.children)
    (hfilled' : Widget.GroupsFilledAll w'.children) : w.calls 0 0 = w'.calls 0 0 ↔ w = w' := by
  refine ⟨fun hcalls => ?_, fun h => by rw [h]⟩
  have hshown := w.windows_issueAll hfilled
  rw [hcalls, w'.windows_issueAll hfilled'] at hshown
  simpa using hshown.symm

end Window

variable {options : Options} {source : String} {w : Window}

-- What a new recording holds after a document.
theorem value_parse_recording (h : (parseWindow options source).value = .ok w) :
    (parse Recording.renderer options source .empty).value =
      ⟨.ok (), Recording.empty.extend (w.calls 0 0) (Widget.panelsAll w.children + 1)
        (Widget.groupsAll w.children)⟩ := by
  obtain ⟨hresult, hevents, -⟩ := reading_of_parseWindow h
  rw [value_parse, hresult, state_parse_of_ok _ _ hresult, hevents,
    Recording.state_performAll_window]
  rfl

theorem calls_parse_recording (h : (parseWindow options source).value = .ok w) :
    (parse Recording.renderer options source .empty).value.state.calls.toList = w.calls 0 0 := by
  rw [value_parse_recording h]
  simp [Recording.extend, Recording.empty]

-- Printing the window of an accepted document keeps all there is to the document, and two
-- documents are printed alike just if they have the same window, or make the same calls.
theorem source_canonical (h : (parseWindow options source).value = .ok w) :
    (∀ commit, (parseWindow ⟨commit, options.maxNesting⟩ w.source).value = .ok w ∧
      (parse Recording.renderer ⟨commit, options.maxNesting⟩ w.source .empty).value =
        (parse Recording.renderer options source .empty).value) ∧
    ∀ options' source' w', (parseWindow options' source').value = .ok w' →
      (w.source = w'.source ↔ w = w') ∧
      (w = w' ↔ (parse Recording.renderer options source .empty).value.state.calls =
        (parse Recording.renderer options' source' .empty).value.state.calls) := by
  obtain ⟨-, -, hformed⟩ := reading_of_parseWindow h
  refine ⟨fun commit => ?_, fun options' source' w' h' => ?_⟩
  · have hprinted : (parseWindow ⟨commit, options.maxNesting⟩ w.source).value = .ok w :=
      hformed.parseWindow_source ⟨commit, options.maxNesting⟩
    exact ⟨hprinted, by rw [value_parse_recording hprinted, value_parse_recording h]⟩
  · obtain ⟨-, -, hformed'⟩ := reading_of_parseWindow h'
    refine ⟨hformed.source_eq_iff hformed', ?_⟩
    rw [← Array.toList_inj, calls_parse_recording h, calls_parse_recording h']
    exact (Window.calls_eq_iff hformed.children.groupsFilled
      hformed'.children.groupsFilled).symm

def looseText : String :=
  "Window \"W\" (1.9, 2) layout flow: // as it comes\n"
    ++ "button \"A\"; PANEL layout grid(1, 2): group radio \"B\"; end; end; end. and more"

def looseWindow : Window :=
  ⟨"W", 1, 2, .flow, [.button "A", .panel (.grid 1 2 none) [.radioGroup ["B"]]]⟩

theorem source_canonical_loose :
    (parseWindow .standard looseText).value = .ok looseWindow ∧
    (∀ commit, (parseWindow ⟨commit, Options.standard.maxNesting⟩ looseWindow.source).value =
        .ok looseWindow ∧
      (parse Recording.renderer ⟨commit, Options.standard.maxNesting⟩ looseWindow.source
          .empty).value =
        (parse Recording.renderer .standard looseText .empty).value) ∧
    ∀ options' source' w', (parseWindow options' source').value = .ok w' →
      (looseWindow.source = w'.source ↔ looseWindow = w') ∧
      (looseWindow = w' ↔
        (parse Recording.renderer .standard looseText .empty).value.state.calls =
          (parse Recording.renderer options' source' .empty).value.state.calls) := by
  have hread : (parseWindow .standard looseText).value = .ok looseWindow := by
    decide +kernel
  exact ⟨hread, source_canonical hread⟩

end WindowDoc
