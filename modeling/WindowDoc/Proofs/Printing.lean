import WindowDoc.Proofs.Assembly
import WindowDoc.Proofs.Lexing
import WindowDoc.Window.Source

namespace WindowDoc

namespace Widget

mutual

-- What can be written as source: texts fit between quotes, and nothing that has to hold
-- something is empty.
def WellFormed : Widget → Prop
  | button caption => Quotable caption
  | label text => Quotable text
  | textField _ => True
  | panel _ children => children ≠ [] ∧ WellFormedAll children
  | radioGroup labels => labels ≠ [] ∧ ∀ label ∈ labels, Quotable label

def WellFormedAll : List Widget → Prop
  | [] => True
  | widget :: rest => widget.WellFormed ∧ WellFormedAll rest

end

end Widget

-- With panels nested at most `limit` deep.
structure Window.WellFormed (limit : Nat) (w : Window) : Prop where
  title : Quotable w.title
  children_ne_nil : w.children ≠ []
  children : Widget.WellFormedAll w.children
  depth_le : w.depth ≤ limit

open Grammar Lexemes

-- What is printed is the source of a derivation, of which the window comes back.

theorem spells_indent (depth : Nat) : Spells (indent depth).toList [] := by
  induction depth with
  | zero => exact .nil
  | succ depth ih =>
      have htext : (indent (depth + 1)).toList =
          ' ' :: ' ' :: ' ' :: ' ' :: (indent depth).toList := by
        simp [indent]
      rw [htext]
      exact ih.space.space.space.space

theorem Layout.source_grid (rows columns : Int32) :
    (Layout.grid rows columns none).source =
      "layout grid(" ++ Numeral.signed rows ++ ", " ++ Numeral.signed columns ++ "):" := rfl

theorem Layout.source_gaps (rows columns : Int32) (gaps : Gaps) :
    (Layout.grid rows columns (some gaps)).source =
      "layout grid(" ++ Numeral.signed rows ++ ", " ++ Numeral.signed columns ++ ", "
        ++ Numeral.signed gaps.horizontal ++ ", " ++ Numeral.signed gaps.vertical ++ "):" := rfl

theorem Layout.exists_arrangement (layout : Layout) :
    ∃ a : Arrangement, a.layout = layout ∧ Spells layout.source.toList a.clause := by
  obtain _ | ⟨rows, columns, _ | ⟨horizontal, vertical⟩⟩ := layout
  · refine ⟨.flow, rfl, ?_⟩
    have htext : (Layout.source .flow).toList =
        Keyword.layout.spelling.toList ++ ' ' :: (Keyword.flow.spelling.toList ++ [':']) := rfl
    rw [htext]
    have hflow := Spells.nil.colon.keyword .flow (by decide)
    exact hflow.word .layout
  · refine ⟨.grid (Decimal.ofInt32 rows).toDouble (Decimal.ofInt32 columns).toDouble none, ?_, ?_⟩
    · simp only [Arrangement.layout, Decimal.toInt32_ofInt32]
    have htext : (Layout.source (.grid rows columns none)).toList =
        Keyword.layout.spelling.toList ++ ' ' :: (Keyword.grid.spelling.toList ++ '(' ::
          ((Numeral.signed rows).toList ++ ',' :: ' ' ::
            ((Numeral.signed columns).toList ++ [')', ':']))) := by
      simp [Layout.source_grid, Keyword.spelling]
    rw [htext]
    have hcolumns := Spells.nil.colon.closeParen.number columns (by decide) (by decide)
    have hrows := hcolumns.space.comma.number rows (by decide) (by decide)
    have hgrid := hrows.openParen.keyword .grid (by decide)
    exact hgrid.word .layout
  · refine ⟨.grid (Decimal.ofInt32 rows).toDouble (Decimal.ofInt32 columns).toDouble
      (some ((Decimal.ofInt32 horizontal).toDouble, (Decimal.ofInt32 vertical).toDouble)), ?_, ?_⟩
    · simp only [Arrangement.layout, Decimal.toInt32_ofInt32]
    have htext : (Layout.source (.grid rows columns (some ⟨horizontal, vertical⟩))).toList =
        Keyword.layout.spelling.toList ++ ' ' :: (Keyword.grid.spelling.toList ++ '(' ::
          ((Numeral.signed rows).toList ++ ',' :: ' ' ::
            ((Numeral.signed columns).toList ++ ',' :: ' ' ::
              ((Numeral.signed horizontal).toList ++ ',' :: ' ' ::
                ((Numeral.signed vertical).toList ++ [')', ':']))))) := by
      simp [Layout.source_gaps, Keyword.spelling]
    rw [htext]
    have hvertical := Spells.nil.colon.closeParen.number vertical (by decide) (by decide)
    have hhorizontal := hvertical.space.comma.number horizontal (by decide) (by decide)
    have hcolumns := hhorizontal.space.comma.number columns (by decide) (by decide)
    have hrows := hcolumns.space.comma.number rows (by decide) (by decide)
    have hgrid := hrows.openParen.keyword .grid (by decide)
    exact hgrid.word .layout

-- A line with a keyword and one text.
theorem spells_phrase (depth : Nat) (k : Keyword) {text : String} (h : Quotable text) :
    Spells ((indent depth).toList ++ (k.spelling.toList ++ ' ' :: '"' ::
      (text.toList ++ ['"', ';', '\n']))) (phrase k text) :=
  (spells_indent depth).append ((Spells.nil.newline.semicolon.string h).word k)

theorem spells_radios (depth : Nat) (labels : List String)
    (h : ∀ label ∈ labels, Quotable label) :
    Spells (String.join (labels.map (radioSource depth))).toList (labels.flatMap radio) := by
  induction labels with
  | nil => exact .nil
  | cons label labels ih =>
      obtain ⟨hlabel, hlabels⟩ := List.forall_mem_cons.mp h
      have htext : (radioSource depth label).toList =
          (indent depth).toList ++ (Keyword.radio.spelling.toList ++ ' ' :: '"' ::
            (label.toList ++ ['"', ';', '\n'])) := by
        simp [radioSource, Keyword.spelling]
      have hradio := spells_phrase depth .radio hlabel
      rw [← htext] at hradio
      rw [List.map_cons, String.join_cons, String.toList_append]
      exact hradio.append (ih hlabels)

mutual

theorem Widget.exists_element (depth : Nat) : (widget : Widget) → widget.WellFormed →
    ∃ e : Element, e.widget = widget ∧ Spells (widget.source depth).toList e.tokens
  | .button caption, h => by
      refine ⟨.button caption, rfl, ?_⟩
      have htext : ((Widget.button caption).source depth).toList =
          (indent depth).toList ++ (Keyword.button.spelling.toList ++ ' ' :: '"' ::
            (caption.toList ++ ['"', ';', '\n'])) := by
        simp [source, Keyword.spelling]
      rw [htext]
      exact spells_phrase depth .button h
  | .label text, h => by
      refine ⟨.label text, rfl, ?_⟩
      have htext : ((Widget.label text).source depth).toList =
          (indent depth).toList ++ (Keyword.label.spelling.toList ++ ' ' :: '"' ::
            (text.toList ++ ['"', ';', '\n'])) := by
        simp [source, Keyword.spelling]
      rw [htext]
      exact spells_phrase depth .label h
  | .textField columns, _ => by
      refine ⟨.textField (Decimal.ofInt32 columns).toDouble, ?_, ?_⟩
      · rw [Element.widget, Decimal.toInt32_ofInt32]
      have htext : ((Widget.textField columns).source depth).toList =
          (indent depth).toList ++ (Keyword.textField.spelling.toList ++ ' ' ::
            ((Numeral.signed columns).toList ++ [';', '\n'])) := by
        simp [source, Keyword.spelling]
      rw [htext]
      have hcolumns := Spells.nil.newline.semicolon.number columns (by decide) (by decide)
      exact (spells_indent depth).append (hcolumns.word .textField)
  | .panel layout children, h => by
      obtain ⟨a, ha, hlayout⟩ := layout.exists_arrangement
      obtain ⟨es, hes, hchildren⟩ := Widget.exists_elements (depth + 1) children h.2
      have hne : es ≠ [] := by
        rintro rfl
        exact h.1 hes.symm
      obtain ⟨e, es, rfl⟩ := List.exists_cons_of_ne_nil hne
      refine ⟨.panel a e es, by rw [Element.widget, ha, ← hes, Element.widgets], ?_⟩
      have htext : ((Widget.panel layout children).source depth).toList =
          (indent depth).toList ++ (Keyword.panel.spelling.toList ++ ' ' ::
            (layout.source.toList ++ '\n' :: ((sourceAll (depth + 1) children).toList ++
              ((indent depth).toList ++ (Keyword.finish.spelling.toList ++ [';', '\n']))))) := by
        simp [source, Keyword.spelling]
      rw [htext]
      have hend := (spells_indent depth).append
        (Spells.nil.newline.semicolon.keyword .finish (by decide))
      have hcontent := hlayout.append (hchildren.append hend).newline
      have hpanel := (spells_indent depth).append (hcontent.word .panel)
      simpa [Element.tokens, Element.tokensAll, blockEnd] using hpanel
  | .radioGroup labels, h => by
      obtain ⟨label, labels, rfl⟩ := List.exists_cons_of_ne_nil h.1
      refine ⟨.group label labels, rfl, ?_⟩
      have htext : ((Widget.radioGroup (label :: labels)).source depth).toList =
          (indent depth).toList ++ (Keyword.group.spelling.toList ++ '\n' ::
            ((String.join ((label :: labels).map (radioSource (depth + 1)))).toList ++
              ((indent depth).toList ++ (Keyword.finish.spelling.toList ++ [';', '\n'])))) := by
        simp [source, Keyword.spelling]
      rw [htext]
      have hend := (spells_indent depth).append
        (Spells.nil.newline.semicolon.keyword .finish (by decide))
      have hcontent := (spells_radios (depth + 1) (label :: labels) h.2).append hend
      have hgroup := (spells_indent depth).append
        (hcontent.newline.keyword .group (by decide))
      simpa [Element.tokens, blockEnd] using hgroup

theorem Widget.exists_elements (depth : Nat) : (widgets : List Widget) →
    WellFormedAll widgets →
    ∃ es : List Element, Element.widgets es = widgets ∧
      Spells (sourceAll depth widgets).toList (Element.tokensAll es)
  | [], _ => ⟨[], rfl, .nil⟩
  | widget :: rest, h => by
      obtain ⟨e, he, hfirst⟩ := Widget.exists_element depth widget h.1
      obtain ⟨es, hes, hrest⟩ := Widget.exists_elements depth rest h.2
      refine ⟨e :: es, by rw [Element.widgets, he, hes], ?_⟩
      rw [sourceAll, String.toList_append]
      exact hfirst.append hrest

end

theorem Window.source_eq (w : Window) :
    w.source =
      "window \"" ++ w.title ++ "\" (" ++ Numeral.signed w.width ++ ", "
        ++ Numeral.signed w.height ++ ")\n" ++ indent 1 ++ w.layout.source ++ "\n"
        ++ Widget.sourceAll 1 w.children ++ "end." := rfl

theorem Window.exists_document {limit : Nat} {w : Window} (h : w.WellFormed limit) :
    ∃ d : Document, d.window = w ∧ Spells w.source.toList d.tokens := by
  obtain ⟨title, width, height, layout, children⟩ := w
  obtain ⟨a, ha, hlayout⟩ := layout.exists_arrangement
  obtain ⟨es, hes, hchildren⟩ := Widget.exists_elements 1 children h.children
  have hne : es ≠ [] := by
    rintro rfl
    exact h.children_ne_nil hes.symm
  obtain ⟨e, es, rfl⟩ := List.exists_cons_of_ne_nil hne
  refine ⟨⟨title, (Decimal.ofInt32 width).toDouble, (Decimal.ofInt32 height).toDouble, a, e, es⟩,
    ?_, ?_⟩
  · rw [Document.window, Decimal.toInt32_ofInt32, Decimal.toInt32_ofInt32, ha, ← hes,
      Element.widgets]
  have htext : (Window.source ⟨title, width, height, layout, children⟩).toList =
      Keyword.window.spelling.toList ++ ' ' :: '"' :: (title.toList ++ '"' :: ' ' :: '(' ::
        ((Numeral.signed width).toList ++ ',' :: ' ' :: ((Numeral.signed height).toList ++ ')' ::
          '\n' :: ((indent 1).toList ++ (layout.source.toList ++ '\n' ::
            ((Widget.sourceAll 1 children).toList ++ (Keyword.finish.spelling.toList ++
              ['.']))))))) := by
    simp [source_eq, Keyword.spelling]
  rw [htext]
  have hend := hchildren.append (Spells.nil.period.keyword .finish (by decide))
  have hcontent := (spells_indent 1).append (hlayout.append hend.newline)
  have hheight := hcontent.newline.closeParen.number height (by decide) (by decide)
  have hwidth := hheight.space.comma.number width (by decide) (by decide)
  have htitle := hwidth.openParen.space.string h.title
  have hwindow := htitle.word .window
  simpa [Document.tokens, Element.tokensAll] using hwindow

end WindowDoc
