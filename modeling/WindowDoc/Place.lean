import WindowDoc.Event
import WindowDoc.Fault

namespace WindowDoc

-- A place in the grammar: what a document may go on with, and what the statement that is
-- being read has brought so far.
--
--   window  = WINDOW string ( number , number ) layout widgets END .
--   layout  = LAYOUT (FLOW | GRID ( number , number [, number , number] )) :
--   widgets = widget+
--   widget  = BUTTON string ; | LABEL string ; | TEXTFIELD number ;
--           | PANEL layout widgets END ; | GROUP radio+ END ;
--   radio   = RADIO string ;
inductive Place where
  | window
  | title
  | sizeOpen (title : String)
  | width (title : String)
  | sizeComma (title : String) (width : Int32)
  | height (title : String) (width : Int32)
  | sizeClose (title : String) (width height : Int32)
  | layout
  | arrangement
  | gridOpen
  | rows
  | gridComma (rows : Int32)
  | columns (rows : Int32)
  | gridClose (rows columns : Int32)
  | horizontalGap (rows columns : Int32)
  | gapComma (rows columns horizontal : Int32)
  | verticalGap (rows columns horizontal : Int32)
  | gapClose (rows columns : Int32) (gaps : Gaps)
  | layoutColon (layout : Layout)
  | widgets (first : Bool)
  | buttonLabel
  | buttonEnd (label : String)
  | labelText
  | labelEnd (text : String)
  | fieldColumns
  | fieldEnd (columns : Int32)
  | radios (first : Bool)
  | radioLabel
  | radioEnd (label : String)
  | groupEnd
  | panelEnd
  | windowEnd
  -- after the keyword of a panel that nests too deep, on the given line
  | tooDeep (line : Nat)
deriving DecidableEq

namespace Place

-- The kinds a widget may begin with.
def widgetStarts : List Kind :=
  [.keyword .button, .keyword .group, .keyword .label, .keyword .panel, .keyword .textField]

-- The kinds that may come next. A block may end once it holds something.
def expected : Place → List Kind
  | window => [.keyword .window]
  | title | buttonLabel | labelText | radioLabel => [.string]
  | sizeOpen _ | gridOpen => [.openParen]
  | width _ | height .. | rows | columns _ | horizontalGap .. | verticalGap .. | fieldColumns =>
      [.number]
  | sizeComma .. | gridComma _ | gapComma .. => [.comma]
  | sizeClose .. | gapClose .. => [.closeParen]
  | layout => [.keyword .layout]
  | arrangement => [.keyword .flow, .keyword .grid]
  | gridClose .. => [.closeParen, .comma]
  | layoutColon _ => [.colon]
  | widgets first => if first then widgetStarts else widgetStarts ++ [.keyword .finish]
  | buttonEnd _ | labelEnd _ | fieldEnd _ | radioEnd _ | groupEnd | panelEnd => [.semicolon]
  | radios first => if first then [.keyword .radio] else [.keyword .radio, .keyword .finish]
  | windowEnd => [.period]
  | tooDeep _ => []

-- What a token leads to: another place, with the number of panels that are open there and the
-- statement that the token completes if it does, or the end of the document, or nothing that
-- the grammar allows.
inductive Step where
  | goOn (place : Place) (depth : Nat) (event : Option Event)
  | finished
  | refused
deriving DecidableEq

namespace Step

def move (place : Place) (depth : Nat) : Step := .goOn place depth none

-- The step that one kind of token leads to.
def onKind (token : Token) (kind : Kind) (step : Step) : Step :=
  if token.kind = kind then step else refused

-- The step that a string leads to, by its content.
def onString (token : Token) (step : String → Step) : Step :=
  match token with
  | .string content => step content
  | _ => refused

-- The step that a number leads to. A document counts in whole numbers.
def onNumber (token : Token) (step : Int32 → Step) : Step :=
  match token with
  | .number value => step value.toInt32
  | _ => refused

end Step

-- `depth` panels are open and `limit` may be. The token stands on the given line.
def step (limit depth line : Nat) (place : Place) (token : Token) : Step :=
  match place with
  | window => .onKind token (.keyword .window) (.move title depth)
  | title => .onString token fun t => .move (sizeOpen t) depth
  | sizeOpen t => .onKind token .openParen (.move (width t) depth)
  | width t => .onNumber token fun w => .move (sizeComma t w) depth
  | sizeComma t w => .onKind token .comma (.move (height t w) depth)
  | height t w => .onNumber token fun h => .move (sizeClose t w h) depth
  | sizeClose t w h => .onKind token .closeParen (.goOn layout depth (some (.openWindow t w h)))
  | layout => .onKind token (.keyword .layout) (.move arrangement depth)
  | arrangement =>
      match token.kind with
      | .keyword .flow => .move (layoutColon .flow) depth
      | .keyword .grid => .move gridOpen depth
      | _ => .refused
  | gridOpen => .onKind token .openParen (.move rows depth)
  | rows => .onNumber token fun r => .move (gridComma r) depth
  | gridComma r => .onKind token .comma (.move (columns r) depth)
  | columns r => .onNumber token fun c => .move (gridClose r c) depth
  | gridClose r c =>
      match token.kind with
      | .closeParen => .move (layoutColon (.grid r c none)) depth
      | .comma => .move (horizontalGap r c) depth
      | _ => .refused
  | horizontalGap r c => .onNumber token fun h => .move (gapComma r c h) depth
  | gapComma r c h => .onKind token .comma (.move (verticalGap r c h) depth)
  | verticalGap r c h => .onNumber token fun v => .move (gapClose r c ⟨h, v⟩) depth
  | gapClose r c gaps => .onKind token .closeParen (.move (layoutColon (.grid r c (some gaps))) depth)
  | layoutColon l => .onKind token .colon (.goOn (widgets true) depth (some (.layout l)))
  | widgets first =>
      match token.kind with
      | .keyword .button => .move buttonLabel depth
      | .keyword .group => .goOn (radios true) depth (some .openGroup)
      | .keyword .label => .move labelText depth
      | .keyword .panel =>
          if depth < limit then .goOn layout (depth + 1) (some .openPanel)
          else .move (tooDeep line) depth
      | .keyword .textField => .move fieldColumns depth
      | .keyword .finish =>
          if first then .refused else .move (if depth = 0 then windowEnd else panelEnd) depth
      | _ => .refused
  | buttonLabel => .onString token fun t => .move (buttonEnd t) depth
  | buttonEnd t => .onKind token .semicolon (.goOn (widgets false) depth (some (.button t)))
  | labelText => .onString token fun t => .move (labelEnd t) depth
  | labelEnd t => .onKind token .semicolon (.goOn (widgets false) depth (some (.label t)))
  | fieldColumns => .onNumber token fun n => .move (fieldEnd n) depth
  | fieldEnd n => .onKind token .semicolon (.goOn (widgets false) depth (some (.textField n)))
  | radios first =>
      match token.kind with
      | .keyword .radio => .move radioLabel depth
      | .keyword .finish => if first then .refused else .move groupEnd depth
      | _ => .refused
  | radioLabel => .onString token fun t => .move (radioEnd t) depth
  | radioEnd t => .onKind token .semicolon (.goOn (radios false) depth (some (.radio t)))
  | groupEnd => .onKind token .semicolon (.goOn (widgets false) depth (some .closeGroup))
  | panelEnd => .onKind token .semicolon (.goOn (widgets false) (depth - 1) (some .closePanel))
  | windowEnd => .onKind token .period .finished
  | tooDeep _ => .refused

-- What is wrong with a lexeme that the place has no use for.
def refusal (place : Place) (limit : Nat) (lexeme : Lexeme) : Fault :=
  match place with
  | tooDeep line => .nestingTooDeep line limit
  | _ => .mismatch ⟨lexeme.position, place.expected, lexeme.kind⟩

namespace Step

theorem onKind_eq_refused_iff {token : Token} {kind : Kind} {step : Step} (h : step ≠ refused) :
    onKind token kind step = refused ↔ token.kind ≠ kind := by
  by_cases hkind : token.kind = kind
  · simp [onKind, hkind, h]
  · simp [onKind, hkind]

theorem onString_eq_refused_iff {token : Token} {step : String → Step}
    (h : ∀ content, step content ≠ refused) :
    onString token step = refused ↔ token.kind ≠ .string := by
  cases token <;> simp [onString, Token.kind, h]

theorem onNumber_eq_refused_iff {token : Token} {step : Int32 → Step}
    (h : ∀ value, step value ≠ refused) :
    onNumber token step = refused ↔ token.kind ≠ .number := by
  cases token <;> simp [onNumber, Token.kind, h]

end Step

-- A place has a use for exactly the kinds that it expects.
theorem step_eq_refused_iff (limit depth line : Nat) (place : Place) (token : Token) :
    place.step limit depth line token = .refused ↔ token.kind ∉ place.expected := by
  cases place with
  | arrangement =>
      simp only [step, expected, Step.move]
      split <;> simp_all
  | gridClose r c =>
      simp only [step, expected, Step.move]
      split <;> simp_all
  | widgets first =>
      simp only [step, expected, widgetStarts, Step.move]
      split <;> cases first <;> simp_all <;> split <;> simp
  | radios first =>
      simp only [step, expected, Step.move]
      split <;> cases first <;> simp_all
  | tooDeep line => simp [step, expected]
  | title | buttonLabel | labelText | radioLabel =>
      simp only [step, expected, List.mem_singleton]
      exact Step.onString_eq_refused_iff (by simp [Step.move])
  | width | height | rows | columns | horizontalGap | verticalGap | fieldColumns =>
      simp only [step, expected, List.mem_singleton]
      exact Step.onNumber_eq_refused_iff (by simp [Step.move])
  | _ =>
      simp only [step, expected, List.mem_singleton]
      exact Step.onKind_eq_refused_iff (by simp [Step.move])

-- One panel more than may be open.
theorem step_panel_of_le {limit depth : Nat} (hover : limit ≤ depth) (first : Bool) (line : Nat) :
    (widgets first).step limit depth line (.keyword .panel) = .goOn (tooDeep line) depth none :=
  if_neg (Nat.not_lt_of_le hover)

-- Where something may come next, a stray lexeme is refused for its kind.
theorem refusal_eq_mismatch {place : Place} (h : place.expected ≠ []) (limit : Nat)
    (lexeme : Lexeme) :
    place.refusal limit lexeme = .mismatch ⟨lexeme.position, place.expected, lexeme.kind⟩ := by
  cases place with
  | tooDeep line => exact absurd rfl h
  | _ => rfl

end Place

end WindowDoc
