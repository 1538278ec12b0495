import WindowDoc.Proofs.CallsBeforeFault
import WindowDoc.Proofs.Renumbering
import WindowDoc.Proofs.RoundTrip

namespace WindowDoc

open Grammar

-- What a limit is compared with is the number of panels that the kinds open at once.

namespace Grammar

-- The most panels that are open at a time while the kinds are read one by one.
def deepest (blocks : List Block) : List Kind → Nat
  | [] => blocks.count .panel
  | kind :: kinds => max (blocks.count .panel) (deepest (Block.after blocks kind) kinds)

variable {blocks : List Block} {ts us : List Token}

theorem count_le_deepest (blocks : List Block) (kinds : List Kind) :
    blocks.count .panel ≤ deepest blocks kinds := by
  cases kinds with
  | nil => exact Nat.le_refl _
  | cons kind kinds => exact Nat.le_max_left ..

-- Tokens that leave the same blocks open as before, and open so many panels in between.
structure Balanced (ts : List Token) (depth : Nat) : Prop where
  blocks_eq : ∀ blocks, (ts.map Token.kind).foldl Block.after blocks = blocks
  deepest_eq : ∀ blocks, deepest blocks (ts.map Token.kind) = blocks.count .panel + depth

theorem deepest_append (blocks : List Block) (kinds more : List Kind) :
    deepest blocks (kinds ++ more) =
      max (deepest blocks kinds) (deepest (kinds.foldl Block.after blocks) more) := by
  induction kinds generalizing blocks with
  | nil =>
      have hle := count_le_deepest blocks more
      simp only [List.nil_append, List.foldl_nil, deepest]
      omega
  | cons kind kinds ih =>
      rw [List.cons_append, deepest, deepest, List.foldl_cons, ih]
      omega

namespace Balanced

variable {depth depth' : Nat}

theorem nil : Balanced [] 0 := ⟨fun _ => rfl, fun _ => rfl⟩

theorem append (h : Balanced ts depth) (h' : Balanced us depth') :
    Balanced (ts ++ us) (max depth depth') := by
  constructor
  · intro blocks
    rw [List.map_append, List.foldl_append, h.blocks_eq, h'.blocks_eq]
  · intro blocks
    rw [List.map_append, deepest_append, h.blocks_eq, h.deepest_eq, h'.deepest_eq]
    omega

-- A token that neither opens nor closes a block.
theorem single {t : Token} (h : ∀ blocks, Block.after blocks t.kind = blocks) : Balanced [t] 0 := by
  refine ⟨fun blocks => h blocks, fun blocks => ?_⟩
  simp [deepest, h]

theorem cons {t : Token} (h : ∀ blocks, Block.after blocks t.kind = blocks)
    (hts : Balanced ts depth) : Balanced (t :: ts) depth := by
  have happend := (single h).append hts
  rwa [Nat.zero_max] at happend

-- What a block holds, between the keyword that opens it and its END.
theorem block {opener close : Token} {b : Block} {extra : Nat}
    (hopen : ∀ blocks, Block.after blocks opener.kind = b :: blocks)
    (hextra : ∀ blocks : List Block, (b :: blocks).count .panel = blocks.count .panel + extra)
    (hclose : ∀ blocks, Block.after blocks close.kind = blocks) (h : Balanced ts depth) :
    Balanced ([opener] ++ ts ++ [.keyword .finish, close]) (depth + extra) := by
  have hfinish (blocks : List Block) : Block.after blocks (Token.keyword .finish).kind =
      blocks.tail := rfl
  constructor
  · intro blocks
    simp [hopen, h.blocks_eq, hfinish, hclose]
  · intro blocks
    simp only [List.map_append, List.map_cons, List.map_nil, deepest_append, List.foldl_append,
      List.foldl_cons, List.foldl_nil, deepest, hopen, hfinish, hclose, h.blocks_eq, h.deepest_eq,
      hextra, List.tail_cons]
    omega

end Balanced

theorem Arrangement.balanced_clause (a : Arrangement) : Balanced a.clause 0 := by
  obtain _ | ⟨rows, columns, _ | ⟨horizontal, vertical⟩⟩ := a
  · iterate 3 refine .cons (fun _ => rfl) ?_
    exact .nil
  · iterate 8 refine .cons (fun _ => rfl) ?_
    exact .nil
  · iterate 12 refine .cons (fun _ => rfl) ?_
    exact .nil

theorem balanced_phrase {k : Keyword} (text : String)
    (h : ∀ blocks, Block.after blocks (.keyword k) = blocks) : Balanced (phrase k text) 0 :=
  .cons h (.cons (fun _ => rfl) (.cons (fun _ => rfl) .nil))

theorem balanced_radios (labels : List String) : Balanced (labels.flatMap radio) 0 := by
  induction labels with
  | nil => exact .nil
  | cons label labels ih => exact (balanced_phrase label fun _ => rfl).append ih

mutual

theorem Element.balanced (e : Element) : Balanced e.tokens e.widget.depth := by
  cases e with
  | button caption => exact balanced_phrase caption fun _ => rfl
  | label text => exact balanced_phrase text fun _ => rfl
  | textField columns =>
      exact .cons (fun _ => rfl) (.cons (fun _ => rfl) (.cons (fun _ => rfl) .nil))
  | group first others =>
      have hgroup : Balanced ([.keyword .group] ++ (first :: others).flatMap radio
          ++ [.keyword .finish, .semicolon]) (0 + 0) :=
        .block (fun _ => rfl) (fun _ => rfl) (fun _ => rfl) (balanced_radios (first :: others))
      exact hgroup
  | panel arrangement first others =>
      have hcontent := arrangement.balanced_clause.append
        (first.balanced.append (Element.balancedAll others))
      have hpanel : Balanced ([.keyword .panel] ++ (arrangement.clause ++
          (first.tokens ++ tokensAll others)) ++ [.keyword .finish, .semicolon]) (_ + 1) :=
        .block (fun _ => rfl) (fun _ => List.count_cons_self) (fun _ => rfl) hcontent
      rw [Nat.zero_max] at hpanel
      simpa only [tokens, blockEnd, widget, Widget.depth, Widget.depthAll, List.append_assoc]
        using hpanel

theorem Element.balancedAll (es : List Element) :
    Balanced (tokensAll es) (Widget.depthAll (widgets es)) := by
  cases es with
  | nil => exact .nil
  | cons e es => exact e.balanced.append (Element.balancedAll es)

end

-- No more panels are open at once than the window nests, and at some place as many are.
theorem Document.deepest_kinds (d : Document) : deepest [] d.kinds = d.window.depth := by
  have hsize : Balanced [.string d.title, .openParen, .number d.width, .comma, .number d.height,
      .closeParen] 0 := by
    iterate 6 refine .cons (fun _ => rfl) ?_
    exact .nil
  have hcontent := hsize.append (d.arrangement.balanced_clause.append
    (d.first.balanced.append (Element.balancedAll d.others)))
  have hwindow : Balanced ([.keyword .window] ++ ([.string d.title, .openParen, .number d.width,
      .comma, .number d.height, .closeParen] ++ (d.arrangement.clause ++
        (d.first.tokens ++ Element.tokensAll d.others))) ++ [.keyword .finish, .period]) (_ + 0) :=
    .block (fun _ => rfl) (fun _ => rfl) (fun _ => rfl) hcontent
  have hdeepest := hwindow.deepest_eq []
  simp only [Nat.zero_max] at hdeepest
  simpa [kinds, tokens, window, Window.depth, Widget.depthAll] using hdeepest

end Grammar

-- A lower limit makes no difference until it stops the reading.

namespace Lexemes

variable {fewer more depth : Nat} {place : Place} {lexeme next : Lexeme} {lx : Lexemes}

-- The first item is taken up wherever it is read.
theorem acts_of_items_ok {limit : Nat} {after : List (Except LexicalError Lexeme)}
    (h : lx.items = .ok lexeme :: after) (waiting : Option Event) :
    Act.take lexeme :: waiting.toList.map .perform <+:
      (lx.reading limit place depth waiting).acts := by
  cases lx with
  | stopped e => cases h
  | ended position =>
      obtain ⟨hlexeme, -⟩ := List.cons.inj h
      rw [← Except.ok.inj hlexeme]
      exact List.prefix_append ..
  | cons l rest =>
      obtain ⟨hlexeme, -⟩ := List.cons.inj h
      rw [← Except.ok.inj hlexeme]
      exact List.prefix_append ..

-- A panel that only the lower limit forbids is looked at like any other lexeme.
theorem exists_step_panel (limit depth line : Nat) (first : Bool) :
    ∃ next deeper event, (Place.widgets first).step limit depth line (.keyword .panel) =
      .goOn next deeper event := by
  by_cases hlt : depth < limit
  · exact ⟨_, _, _, if_pos hlt⟩
  · exact ⟨_, _, _, if_neg hlt⟩

theorem reading_of_le (hle : fewer ≤ more) (hlive : place.expected ≠ []) (waiting : Option Event)
    (lx : Lexemes) :
    lx.reading more place depth waiting = lx.reading fewer place depth waiting ∨
      (∃ line, (lx.reading fewer place depth waiting).result =
        .error (.nestingTooDeep line fewer)) ∧
      (lx.reading fewer place depth waiting).acts <+:
        (lx.reading more place depth waiting).acts := by
  induction lx generalizing place depth waiting with
  | stopped e => exact .inl rfl
  | ended position =>
      left
      rw [reading, reading, Place.refusal_eq_mismatch hlive, Place.refusal_eq_mismatch hlive]
  | cons lexeme rest ih =>
      cases hstep : place.step fewer depth lexeme.position.line lexeme.token with
      | goOn next deeper event =>
          obtain hprogress | ⟨⟨first, rfl⟩, hpanel, hover, -⟩ := Place.step_eq_goOn hstep
          · rw [reading_cons waiting rest hstep,
              reading_cons waiting rest (hprogress.step_eq more lexeme.position.line hle)]
            obtain hsame | ⟨hresult, hacts⟩ := ih hprogress.expected_ne_nil event
            · exact .inl (by rw [hsame])
            · exact .inr ⟨hresult, (List.prefix_append_right_inj _).mpr hacts⟩
          · obtain ⟨place', deeper', event', hstep'⟩ :=
              exists_step_panel more depth lexeme.position.line first
            have hdeep := Place.step_panel_of_le hover first lexeme.position.line
            rw [← hpanel] at hstep' hdeep
            rw [reading_cons waiting rest hdeep, reading_cons waiting rest hstep']
            obtain ⟨item, after, hitems⟩ := rest.items_eq_cons
            cases item with
            | error e =>
                -- the error comes first, whether or not the panel would have been begun
                left
                rw [reading_of_items_error hitems, reading_of_items_error hitems]
            | ok l =>
                right
                rw [reading_of_items_ok hitems (by simp [Place.expected])]
                have htaken : [Act.take l] <+: (rest.reading more place' deeper' event').acts :=
                  (List.prefix_append [_] _).trans (acts_of_items_ok hitems event')
                exact ⟨⟨_, rfl⟩, (List.prefix_append_right_inj _).mpr htaken⟩
      | finished =>
          left
          obtain ⟨rfl, hperiod⟩ := Place.step_eq_finished hstep
          rw [reading, reading, hperiod]
          rfl
      | refused =>
          left
          have hkind := (Place.step_eq_refused_iff _ _ _ _ _).mp hstep
          rw [reading_of_items_ok rfl hkind, reading_of_items_ok rfl hkind,
            Place.refusal_eq_mismatch hlive, Place.refusal_eq_mismatch hlive]

-- The lexemes up to a number, as long as the end of the text is not among them.
theorem beginsWith_of_items {before : List Lexeme} {after : List (Except LexicalError Lexeme)}
    (h : lx.items = before.map .ok ++ .ok lexeme :: after) (heof : lexeme.token ≠ .eof) :
    lx.BeginsWith (before ++ [lexeme]) := by
  induction before generalizing lx with
  | nil =>
      cases lx with
      | stopped e => cases h
      | ended position =>
          cases h
          exact absurd rfl heof
      | cons l rest =>
          cases h
          exact ⟨rest, rfl⟩
  | cons first before ih =>
      cases lx with
      | stopped e => cases h
      | ended position => simp [items] at h
      | cons l rest =>
          obtain ⟨hfirst, hrest⟩ := List.cons.inj h
          obtain ⟨left, rfl⟩ := ih hrest
          obtain rfl := Except.ok.inj hfirst
          exact ⟨left, rfl⟩

end Lexemes

theorem Reading.ofText_of_le {fewer more : Nat} (hle : fewer ≤ more) (source : String) :
    Reading.ofText more source = Reading.ofText fewer source ∨
      (∃ line, (Reading.ofText fewer source).result = .error (.nestingTooDeep line fewer)) ∧
      (Reading.ofText fewer source).acts <+: (Reading.ofText more source).acts :=
  (Lexemes.ofText source).reading_of_le hle (by simp [Place.expected]) none

-- A panel is refused where as many panels are open as may be, and that for the first time.
theorem Reading.nesting_of_result {limit line bound : Nat} {source : String}
    (h : (Reading.ofText limit source).result = .error (.nestingTooDeep line bound)) :
    bound = limit ∧ ∃ before panel, (Lexemes.ofText source).BeginsWith (before ++ [panel]) ∧
      panel.kind = .keyword .panel ∧ Viable ((before ++ [panel]).map Lexeme.kind) ∧
      openPanels (before.map Lexeme.kind) = limit ∧
      (∀ front earlier more, before = front ++ earlier :: more →
        earlier.kind = .keyword .panel → openPanels (front.map Lexeme.kind) < limit) ∧
      line = panel.position.line := by
  obtain ⟨made, -, -, hcut⟩ := exists_made h
  generalize hfault : Fault.nestingTooDeep line bound = fault at hcut
  generalize made.length = count at hcut
  cases hcut with
  | lexical | mismatch => cases hfault
  | @nesting before panel after hitems hviable hpanel hopen hearlier =>
      cases hfault
      refine ⟨rfl, before, panel, Lexemes.beginsWith_of_items hitems (by simp [hpanel]),
        congrArg Token.kind hpanel, hviable, hopen, fun front earlier more hsplit hkind => ?_, rfl⟩
      exact hearlier front earlier more hsplit (kind_eq_keyword_iff.mp hkind)

-- What has been recorded stays recorded.
theorem Recording.calls_performAll_prefix (scene : Scene Recording ContainerId GroupId)
    (events : List Event) :
    scene.state.calls.toList <+:
      (scene.performAll renderer events).value.state.calls.toList := by
  obtain ⟨requests, hstate⟩ := scene.exists_requests renderer events
  rw [hstate]
  clear hstate
  generalize scene.state = recording
  induction requests generalizing recording with
  | nil => exact List.prefix_rfl
  | cons request requests ih =>
      have hfirst : recording.calls.toList <+: (recording.after request).calls.toList := by
        rw [toList_calls_after]
        exact List.prefix_append ..
      exact hfirst.trans (ih (recording.after request))

theorem calls_recorded_prefix {limit limit' : Nat} {source : String}
    (h : (Reading.ofText limit source).acts <+: (Reading.ofText limit' source).acts) :
    (recorded limit source).state.calls.toList <+:
      (recorded limit' source).state.calls.toList := by
  obtain ⟨rest, hrest⟩ : (Reading.ofText limit source).events <+:
      (Reading.ofText limit' source).events := h.filterMap _
  rw [recorded, recorded, value_parse_streaming, value_parse_streaming, state_parseStreaming,
    state_parseStreaming, ← hrest, Scene.performAll_append]
  exact Recording.calls_performAll_prefix _ rest

theorem result_recorded (limit : Nat) (source : String) :
    (recorded limit source).result = (Reading.ofText limit source).result :=
  result_parse ..

-- A program that is accepted at all is accepted up to the depth of its panels.
theorem exists_program_of_result {other : Nat} {source : String}
    (h : (Reading.ofText other source).result = .ok ()) (limit : Nat) :
    ∃ ls, (Lexemes.ofText source).BeginsWith ls ∧ IsProgram (ls.map Lexeme.kind) ∧
      ((Reading.ofText limit source).result = .ok () ↔
        deepest [] (ls.map Lexeme.kind) ≤ limit) := by
  obtain ⟨ls, hbegins, hother⟩ := (Reading.result_ofText_eq_ok_iff other source).mp h
  refine ⟨ls, hbegins, hother.isProgram, ?_⟩
  rw [Reading.result_ofText_eq_ok_iff]
  constructor
  · rintro ⟨ls', hbegins', hderivable⟩
    obtain rfl := hbegins.eq_of_isProgram hbegins' hother.isProgram hderivable.isProgram
    obtain ⟨d, hkinds, hdepth⟩ := hderivable
    rwa [← hkinds, d.deepest_kinds]
  · intro hdeepest
    obtain ⟨d, hkinds, -⟩ := hother
    rw [← hkinds, d.deepest_kinds] at hdeepest
    exact ⟨ls, hbegins, d, hkinds, hdeepest⟩

theorem depth_le_of_parseWindow {options : Options} {source : String} {w : Window}
    (h : (parseWindow options source).value = .ok w) : w.depth ≤ options.maxNesting :=
  (reading_of_parseWindow h).2.2.depth_le

-- The window that a document adds is the one that is read from it on its own.
theorem mem_windows_or_depth_le {options : Options} {source : String} {w : Window}
    (requests : List (Request ContainerId GroupId))
    (h : w ∈ (parse Assembler.renderer options source
      (Assembler.run requests)).value.state.windows) :
    w ∈ (Assembler.run requests).windows ∨ w.depth ≤ options.maxNesting := by
  obtain ⟨-, -, houtcome⟩ :=
    Assembler.parsed (Assembler.pendingNumbered_run requests) options source
  split at houtcome
  · rename_i after hafter
    obtain ⟨shown, hshown, hwindows⟩ := houtcome
    rw [hafter, hwindows, Array.mem_push] at h
    obtain hold | rfl := h
    · exact .inl hold
    · exact .inr (depth_le_of_parseWindow hshown)
  · rename_i fault after hafter
    rw [hafter, houtcome.2.1] at h
    exact .inl h

-- Up to the limit that a document needs it is refused, and from there on it is always the same.
theorem nesting_threshold (limit : Nat) (source : String) :
    ((∀ line bound, (recorded limit source).result ≠ .error (.nestingTooDeep line bound)) →
      ∀ more, limit ≤ more → ∀ {σ κ γ : Type} (r : Renderer σ κ γ) (commit : Commit) (state : σ),
        parse r ⟨commit, more⟩ source state = parse r ⟨commit, limit⟩ source state) ∧
    (∀ line bound, (recorded limit source).result = .error (.nestingTooDeep line bound) →
      (bound = limit ∧ ∃ before panel, (Lexemes.ofText source).BeginsWith (before ++ [panel]) ∧
        panel.kind = .keyword .panel ∧ Viable ((before ++ [panel]).map Lexeme.kind) ∧
        openPanels (before.map Lexeme.kind) = limit ∧
        (∀ front earlier more, before = front ++ earlier :: more →
          earlier.kind = .keyword .panel → openPanels (front.map Lexeme.kind) < limit) ∧
        line = panel.position.line) ∧
      ∀ fewer, fewer < limit →
        (∃ line', (recorded fewer source).result = .error (.nestingTooDeep line' fewer)) ∧
        (recorded fewer source).state.calls.toList <+:
          (recorded limit source).state.calls.toList) ∧
    (∀ other, (recorded other source).result = .ok () →
      ∃ ls, (Lexemes.ofText source).BeginsWith ls ∧ IsProgram (ls.map Lexeme.kind) ∧
        ((recorded limit source).result = .ok () ↔ deepest [] (ls.map Lexeme.kind) ≤ limit)) ∧
    ∀ commit, (∀ w, (parseWindow ⟨commit, limit⟩ source).value = .ok w → w.depth ≤ limit) ∧
      ∀ requests, ∀ w ∈ (parse Assembler.renderer ⟨commit, limit⟩ source
          (Assembler.run requests)).value.state.windows,
        w ∈ (Assembler.run requests).windows ∨ w.depth ≤ limit := by
  simp only [result_recorded]
  refine ⟨?_, ?_, ?_, ?_⟩
  · intro h more hle σ κ γ r commit state
    obtain hsame | ⟨⟨line, hresult⟩, -⟩ := Reading.ofText_of_le hle source
    · simp only [parse, parseAtomic, parseStreaming, hsame]
    · exact absurd hresult (h line limit)
  · intro line bound h
    refine ⟨Reading.nesting_of_result h, fun fewer hlt => ?_⟩
    obtain hsame | ⟨hresult, hacts⟩ := Reading.ofText_of_le (Nat.le_of_lt hlt) source
    · -- a fault names the limit that it is about
      have hlimit := (Reading.nesting_of_result h).1
      rw [hsame] at h
      exact absurd ((Reading.nesting_of_result h).1.symm.trans hlimit) (Nat.ne_of_lt hlt)
    · exact ⟨hresult, calls_recorded_prefix hacts⟩
  · exact fun other h => exists_program_of_result h limit
  · exact fun commit => ⟨fun w h => depth_le_of_parseWindow h,
      fun requests w hw => mem_windows_or_depth_le requests hw⟩

-- The second panel is one too many, but what follows it is looked at first.
example :
    (recorded 1 "window \"T\" (1,1) layout flow: panel layout flow:\npanel layout").result =
      .error (.nestingTooDeep 2 1) ∧
    (recorded 1 "window \"T\" (1,1) layout flow: panel layout flow:\npanel ?").result =
      .error (.lexical ⟨.unexpectedChar '?', ⟨2, 7⟩⟩) := by
  decide +kernel

end WindowDoc
