/-!
# Failures

What can go wrong with stores and files, and the words for it.
-/

namespace CrawlGraph

/-- Why a file or folder cannot be used. -/
inductive DiskFault where
  | missing
  | isFolder
  | notFolder
  /-- The bytes of a file that should be text are not. -/
  | notText
  | denied
  deriving DecidableEq, Repr

/-- Why a store refuses something. -/
inductive StoreFault where
  /-- The file of the store cannot be opened. -/
  | unopened
  /-- The file of the store is something else. -/
  | foreign
  /-- The store rejects a key. -/
  | rejected
  deriving DecidableEq, Repr

/-- What is wrong with a line of a resource file. -/
inductive LineFault where
  | fieldCount (count : Nat) (line : String)
  | noUrl (line : String)
  /-- A field is not the number that it should be. -/
  | number (name field : String)
  deriving DecidableEq, Repr

/-- Why something cannot be done. -/
inductive Failure where
  | store (fault : StoreFault)
  | disk (fault : DiskFault)
  /-- A stored value is not what it should be. -/
  | undecodable
  /-- The store of the given name is closed. -/
  | closed (name : String)
  /-- A path that should lead to a folder does not. -/
  | invalidPath (path : String)
  | invalidLine (fault : LineFault)
  deriving DecidableEq, Repr

end CrawlGraph
