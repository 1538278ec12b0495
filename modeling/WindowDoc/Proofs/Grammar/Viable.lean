import WindowDoc.Proofs.Grammar.Theorems

namespace WindowDoc

-- Some token of the kind.
def Kind.sample : Kind → Token
  | .keyword k => .keyword k
  | .string => .string ""
  | .number => .number (Decimal.mk false 0 0).toDouble
  | .comma => .comma
  | .colon => .colon
  | .semicolon => .semicolon
  | .period => .period
  | .openParen => .openParen
  | .closeParen => .closeParen
  | .eof => .eof

@[simp] theorem Kind.kind_sample (kind : Kind) : kind.sample.kind = kind := by
  cases kind <;> rfl

namespace Grammar

-- Some program begins with these kinds, however deep its panels nest.
def Viable (kinds : List Kind) : Prop := ∃ d : Document, kinds <+: d.kinds

variable {limit depth deeper final : Nat} {place next last : Place} {token : Token}
  {ts us : List Token} {es : List Event}

-- From every place that expects something a document can be completed.

theorem exists_accepts_before (token : Token) {event : Option Event}
    (hstep : place.step limit depth 0 token = .goOn next deeper event)
    (h : ∃ ts, Accepts limit next deeper ts) : ∃ ts, Accepts limit place depth ts := by
  obtain ⟨ts, hts⟩ := h
  refine ⟨token :: ts, ?_⟩
  rw [Accepts, hstep]
  exact hts

theorem exists_accepts_block (limit depth : Nat) :
    ∃ ts, Accepts limit (.widgets false) depth ts := by
  induction depth with
  | zero => exact ⟨[.keyword .finish, .period], rfl⟩
  | succ depth ih =>
      obtain ⟨ts, hts⟩ := ih
      exact ⟨.keyword .finish :: .semicolon :: ts, hts⟩

theorem exists_accepts (limit depth : Nat) (place : Place) (hlive : place.expected ≠ []) :
    ∃ ts, Accepts limit place depth ts := by
  let number : Token := .number (Decimal.mk false 0 0).toDouble
  have hblock (depth : Nat) := exists_accepts_block limit depth
  have hlabel (text : String) : ∃ ts, Accepts limit (.labelEnd text) depth ts :=
    exists_accepts_before .semicolon rfl (hblock depth)
  have hwidgets (first : Bool) : ∃ ts, Accepts limit (.widgets first) depth ts :=
    exists_accepts_before (.keyword .label) rfl (exists_accepts_before (.string "") rfl (hlabel ""))
  have hgroup : ∃ ts, Accepts limit .groupEnd depth ts :=
    exists_accepts_before .semicolon rfl (hblock depth)
  have hradio (label : String) : ∃ ts, Accepts limit (.radioEnd label) depth ts :=
    exists_accepts_before .semicolon rfl (exists_accepts_before (.keyword .finish) rfl hgroup)
  have hcolon (layout : Layout) : ∃ ts, Accepts limit (.layoutColon layout) depth ts :=
    exists_accepts_before .colon rfl (hwidgets true)
  have hgap (rows columns : Int32) (gaps : Gaps) :
      ∃ ts, Accepts limit (.gapClose rows columns gaps) depth ts :=
    exists_accepts_before .closeParen rfl (hcolon _)
  have hvertical (rows columns horizontal : Int32) :
      ∃ ts, Accepts limit (.verticalGap rows columns horizontal) depth ts :=
    exists_accepts_before number rfl (hgap _ _ _)
  have hcomma (rows columns horizontal : Int32) :
      ∃ ts, Accepts limit (.gapComma rows columns horizontal) depth ts :=
    exists_accepts_before .comma rfl (hvertical _ _ _)
  have hgrid (rows columns : Int32) : ∃ ts, Accepts limit (.gridClose rows columns) depth ts :=
    exists_accepts_before .closeParen rfl (hcolon _)
  have hcolumns (rows : Int32) : ∃ ts, Accepts limit (.columns rows) depth ts :=
    exists_accepts_before number rfl (hgrid _ _)
  have hrows (rows : Int32) : ∃ ts, Accepts limit (.gridComma rows) depth ts :=
    exists_accepts_before .comma rfl (hcolumns _)
  have harrangement : ∃ ts, Accepts limit .arrangement depth ts :=
    exists_accepts_before (.keyword .flow) rfl (hcolon .flow)
  have hlayout : ∃ ts, Accepts limit .layout depth ts :=
    exists_accepts_before (.keyword .layout) rfl harrangement
  have hsize (title : String) (width height : Int32) :
      ∃ ts, Accepts limit (.sizeClose title width height) depth ts :=
    exists_accepts_before .closeParen rfl hlayout
  have hheight (title : String) (width : Int32) :
      ∃ ts, Accepts limit (.height title width) depth ts :=
    exists_accepts_before number rfl (hsize _ _ _)
  have hwidth (title : String) (width : Int32) :
      ∃ ts, Accepts limit (.sizeComma title width) depth ts :=
    exists_accepts_before .comma rfl (hheight _ _)
  have hopen (title : String) : ∃ ts, Accepts limit (.width title) depth ts :=
    exists_accepts_before number rfl (hwidth _ _)
  have htitle (title : String) : ∃ ts, Accepts limit (.sizeOpen title) depth ts :=
    exists_accepts_before .openParen rfl (hopen title)
  cases place with
  | window =>
      exact exists_accepts_before (.keyword .window) rfl
        (exists_accepts_before (.string "") rfl (htitle ""))
  | title => exact exists_accepts_before (.string "") rfl (htitle "")
  | sizeOpen title => exact htitle title
  | width title => exact hopen title
  | sizeComma title width => exact hwidth title width
  | height title width => exact hheight title width
  | sizeClose title width height => exact hsize title width height
  | layout => exact hlayout
  | arrangement => exact harrangement
  | gridOpen =>
      exact exists_accepts_before .openParen rfl (exists_accepts_before number rfl (hrows _))
  | rows => exact exists_accepts_before number rfl (hrows _)
  | gridComma rows => exact hrows rows
  | columns rows => exact hcolumns rows
  | gridClose rows columns => exact hgrid rows columns
  | horizontalGap rows columns => exact exists_accepts_before number rfl (hcomma rows columns _)
  | gapComma rows columns horizontal => exact hcomma rows columns horizontal
  | verticalGap rows columns horizontal => exact hvertical rows columns horizontal
  | gapClose rows columns gaps => exact hgap rows columns gaps
  | layoutColon layout => exact hcolon layout
  | widgets first => exact hwidgets first
  | buttonLabel =>
      exact exists_accepts_before (.string "") rfl
        (exists_accepts_before .semicolon rfl (hblock depth))
  | buttonEnd label => exact exists_accepts_before .semicolon rfl (hblock depth)
  | labelText => exact exists_accepts_before (.string "") rfl (hlabel "")
  | labelEnd text => exact hlabel text
  | fieldColumns =>
      exact exists_accepts_before number rfl
        (exists_accepts_before .semicolon rfl (hblock depth))
  | fieldEnd columns => exact exists_accepts_before .semicolon rfl (hblock depth)
  | radios first =>
      exact exists_accepts_before (.keyword .radio) rfl
        (exists_accepts_before (.string "") rfl (hradio ""))
  | radioLabel => exact exists_accepts_before (.string "") rfl (hradio "")
  | radioEnd label => exact hradio label
  | groupEnd => exact hgroup
  | panelEnd => exact exists_accepts_before .semicolon rfl (hblock (depth - 1))
  | windowEnd => exact ⟨[.period], rfl⟩
  | tooDeep line => exact absurd rfl hlive

theorem Accepts.mono {more : Nat} (hmore : limit ≤ more) (h : Accepts limit .window 0 ts) :
    Accepts more .window 0 ts := by
  obtain ⟨d, htokens, hdepth⟩ := (accepts_iff limit ts).mp h
  exact (accepts_iff more ts).mpr ⟨d, htokens, Nat.le_trans hdepth hmore⟩

theorem viable_iff {ts : List Token} : Viable (ts.map Token.kind) ↔
    ∃ limit us, Accepts limit .window 0 (ts ++ us) := by
  constructor
  · rintro ⟨d, rest, hrest⟩
    have hkinds : (ts ++ d.tokens.drop ts.length).map Token.kind = d.kinds := by
      have hdrop : rest = d.kinds.drop ts.length := by simp [← hrest]
      rw [List.map_append, List.map_drop, ← Document.kinds, ← hdrop, hrest]
    obtain ⟨d', htokens, -⟩ := d.exists_of_kinds hkinds
    exact ⟨d'.window.depth, _, (accepts_iff _ _).mpr ⟨d', htokens, Nat.le_refl _⟩⟩
  · rintro ⟨limit, us, haccepts⟩
    obtain ⟨d, htokens, -⟩ := (accepts_iff limit _).mp haccepts
    exact ⟨d, us.map Token.kind, by rw [Document.kinds, ← htokens, List.map_append]⟩

theorem isProgram_iff {ts : List Token} : IsProgram (ts.map Token.kind) ↔
    ∃ limit, Accepts limit .window 0 ts := by
  constructor
  · rintro ⟨d, hkinds⟩
    obtain ⟨d', htokens, -⟩ := d.exists_of_kinds hkinds.symm
    exact ⟨d'.window.depth, (accepts_iff _ _).mpr ⟨d', htokens, Nat.le_refl _⟩⟩
  · rintro ⟨limit, haccepts⟩
    obtain ⟨d, htokens, -⟩ := (accepts_iff limit ts).mp haccepts
    exact ⟨d, by rw [Document.kinds, htokens]⟩

-- After a walk the kinds that keep the text viable are those that the place expects.
theorem Walk.viable_append_iff (h : Walk limit .window 0 ts es place depth) (token : Token) :
    Viable ((ts ++ [token]).map Token.kind) ↔ token.kind ∈ place.expected := by
  rw [viable_iff]
  constructor
  · rintro ⟨enough, us, haccepts⟩
    have hrest := haccepts.mono (Nat.le_max_right limit enough)
    rw [List.append_assoc, (h.mono (Nat.le_max_left limit enough)).accepts_iff,
      List.singleton_append, Accepts] at hrest
    by_contra hkind
    rw [(Place.step_eq_refused_iff _ depth 0 place token).mpr hkind] at hrest
    exact hrest
  · intro hkind
    -- one panel more than are open here, should the token be that of a panel
    have hwalk := h.mono (Nat.le_max_left limit (depth + 1))
    have hdepth : depth < max limit (depth + 1) := by omega
    generalize max limit (depth + 1) = enough at hwalk hdepth
    have hrest : ∃ us, Accepts enough place depth (token :: us) := by
      cases hstep : place.step enough depth 0 token with
      | goOn next deeper event =>
          obtain hprogress | ⟨-, -, hover, -⟩ := Place.step_eq_goOn hstep
          · obtain ⟨us, hus⟩ := exists_accepts enough deeper next hprogress.expected_ne_nil
            refine ⟨us, ?_⟩
            rw [Accepts, hstep]
            exact hus
          · omega
      | finished => exact ⟨[], by rw [Accepts, hstep]⟩
      | refused => exact absurd hkind ((Place.step_eq_refused_iff _ _ _ _ _).mp hstep)
    obtain ⟨us, hus⟩ := hrest
    exact ⟨enough, us, by rwa [List.append_assoc, hwalk.accepts_iff]⟩

theorem Walk.viable (h : Walk limit .window 0 ts es place depth) : Viable (ts.map Token.kind) := by
  obtain ⟨us, hus⟩ := exists_accepts limit depth place h.expected_ne_nil
  exact viable_iff.mpr ⟨limit, us, h.accepts_iff.mpr hus⟩

theorem Walk.isProgram_append_iff (h : Walk limit .window 0 ts es place depth) (token : Token) :
    IsProgram ((ts ++ [token]).map Token.kind) ↔ place = .windowEnd ∧ token = .period := by
  rw [isProgram_iff]
  constructor
  · rintro ⟨enough, haccepts⟩
    have hlast := haccepts.mono (Nat.le_max_right limit enough)
    rw [(h.mono (Nat.le_max_left limit enough)).accepts_iff, Accepts] at hlast
    split at hlast
    · exact hlast.elim
    · exact Place.step_eq_finished ‹_›
    · exact hlast.elim
  · rintro ⟨rfl, rfl⟩
    exact ⟨limit, h.accepts_iff.mpr rfl⟩

theorem Walk.openPanels_eq {first : Bool} (h : Walk limit .window 0 ts es (.widgets first) depth) :
    openPanels (ts.map Token.kind) = depth := by
  obtain ⟨-, -, hblocks⟩ := h.invariant (by simp [Place.expected]) (Nat.zero_le _) fun _ => rfl
  have hopen : (ts.map Token.kind).foldl Block.after [] = Block.around depth := hblocks
  rw [openPanels, hopen, Block.count_around]

end Grammar

end WindowDoc
