namespace WindowDoc

-- When the calls of a document reach the renderer: as soon as they are read, or only once the
-- whole document has been.
inductive Commit where
  | streaming
  | atomic
deriving DecidableEq

structure Options where
  commit : Commit
  -- how many panels may be open at once
  maxNesting : Nat
deriving DecidableEq

namespace Options

def standard : Options := ⟨.streaming, 256⟩

def withCommit (commit : Commit) (options : Options) : Options := { options with commit }

def withMaxNesting (maxNesting : Nat) (options : Options) : Options :=
  { options with maxNesting }

end Options

end WindowDoc
