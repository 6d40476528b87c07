import DocumentNormalizer.Pass.KeyFields
import DocumentNormalizer.Pass.Validation

namespace DocumentNormalizer

/-- The passes of a compile. Nothing is rewritten before it is known to be valid. -/
def Pass.defaults (keys : List String) : List Pass :=
  [Pass.validateDocuments] ++ (if keys.isEmpty then [] else [Pass.addKeyFields keys]) ++
    [Pass.addTypename]

/-- Runs passes over documents that all have different names. -/
def compileDocuments (schema : Schema) (documents : List Document) (passes : List Pass) :
    Except DuplicateName Run :=
  (Store.ofDocuments documents).map fun store => Run.ofPasses schema store passes

def DuplicateName.message (duplicate : DuplicateName) : String :=
  "Document name " ++ Text.quote duplicate.name ++ " is defined more than once"

end DocumentNormalizer
