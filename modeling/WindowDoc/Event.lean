import WindowDoc.Layout

namespace WindowDoc

-- A document as a sequence of small statements. Where a statement belongs follows from those
-- before it, so none of them names a container or a group.
inductive Event where
  | openWindow (title : String) (width height : Int32)
  | layout (layout : Layout)
  | button (label : String)
  | label (text : String)
  | textField (columns : Int32)
  | openPanel
  | closePanel
  | openGroup
  | radio (label : String)
  | closeGroup
  | showWindow
deriving DecidableEq

end WindowDoc
