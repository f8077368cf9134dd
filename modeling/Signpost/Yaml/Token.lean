/-
  This file defines the tokens of a document.

  Collections that are written by indentation have tokens
  for where they start and end, as those in brackets do.

  Key definitions include:
    * `ScalarStyle`
    * `Token`
-/

namespace Signpost.Yaml

------------------------------------------------------------
-- Tokens
------------------------------------------------------------

/- How a scalar is written. -/
inductive ScalarStyle where
| plain
| quoted
| literal
| folded
deriving DecidableEq, Repr

/- How a tag is written: its handle, and what follows it. -/
structure TagName where
  handle : List Char
  suffix : List Char
deriving DecidableEq, Repr

/- The smallest parts of a document that have a meaning. -/
inductive Token where
| documentStart
| documentEnd
| version (major minor : Nat)
| handle (name : List Char) (start : List Char)
| blockSequence
| blockMapping
| blockEnd
| blockEntry
| flowSequence
| flowSequenceEnd
| flowMapping
| flowMappingEnd
| flowEntry
| key
| value
| anchor (name : List Char)
| alias (name : List Char)
| tag (name : TagName)
| scalar (style : ScalarStyle) (text : List Char)
deriving DecidableEq, Repr

end Signpost.Yaml
