import StorageLayout.SolidityType

/-!
# Contracts and their declarations

A contract is a list of declared state variables. Only their order and the flags that keep a
declaration out of storage matter to its layout.
-/

namespace StorageLayout

structure Declaration where
  name : String
  typeName : String
  isConstant : Bool
  isImmutable : Bool
  deriving DecidableEq, Repr

namespace Declaration

inductive Kind where
  | plain
  | constant
  | immutable
  deriving DecidableEq, Repr

def make (kind : Kind) (name typeName : String) : Declaration where
  name := name
  typeName := typeName
  isConstant := kind = .constant
  isImmutable := kind = .immutable

/-- Constants and immutables live in the code; all else takes storage. -/
def occupiesStorage (d : Declaration) : Bool :=
  !d.isConstant && !d.isImmutable

def type (d : Declaration) : SolidityType :=
  .ofName d.typeName

end Declaration

structure Contract where
  name : String
  /-- In the order of declaration. -/
  declarations : List Declaration
  deriving DecidableEq, Repr

namespace Contract

def empty (name : String) : Contract where
  name := name
  declarations := []

def push (c : Contract) (d : Declaration) : Contract :=
  { c with declarations := c.declarations ++ [d] }

/-- The declarations that take storage, in order. -/
def storageDeclarations (c : Contract) : List Declaration :=
  c.declarations.filter (·.occupiesStorage)

end Contract

end StorageLayout
