import DirSchema.Toml.Statement
set_option autoImplicit false

namespace DirSchema.Toml

mutual

/-- The first key that is in a table within a value for the second time. -/
def Value.duplicate? : Value → Option Issue
  | .array _ items => duplicateInItems? items
  | .table _ entries | .dotted _ entries => duplicateInEntries? [] entries
  | _ => none

def duplicateInItems? : List Value → Option Issue
  | [] => none
  | item :: rest => item.duplicate?.or (duplicateInItems? rest)

/-- The first such key among entries that follow others with the given keys. -/
def duplicateInEntries? (seen : List Key) : Table → Option Issue
  | [] => none
  | (key, value) :: rest =>
    match seen.find? fun other => other.name == key.name with
    | some first => some { fault := .duplicateKey first.span, span := key.span }
    | none => value.duplicate?.or (duplicateInEntries? (seen ++ [key]) rest)

end

def Table.extend (table : Table) (entries : Table) : Except Issue Table :=
  match duplicateInEntries? (table.map (·.1)) entries with
  | some issue => .error issue
  | none => .ok (table ++ entries)

/-- Blocks that belong to a table: a block of its own, or those below one of its keys. -/
inductive Member where
  | own (block : Block)
  | below (key : Key) (first : Block) (others : List Block)

/-- The members of a table whose name has `depth` keys, in the order of their first blocks. -/
def members (depth : Nat) : List Block → List Member
  | [] => []
  | block :: rest =>
    match block.header[depth]? with
    | none => .own block :: members depth rest
    | some key =>
      let isBelow (other : Block) := (other.header[depth]?.map (·.name)) == some key.name
      .below key block (rest.filter isBelow) ::
        members depth (rest.filter fun other => !isBelow other)
termination_by blocks => blocks.length
decreasing_by
  · simp
  · have shorter :=
      List.length_filter_le (fun other : { x // x ∈ rest } => !isBelow other.val) rest.attach
    simp only [List.length_attach] at shorter
    simpa using Nat.lt_succ_of_le shorter

/-- Blocks cut before each block that starts another item of an array. -/
def itemsOf (depth : Nat) (first : Block) : List Block → List (Block × List Block)
  | [] => [(first, [])]
  | block :: rest =>
    if block.isArray && block.header.length = depth then (first, []) :: itemsOf depth block rest
    else
      match itemsOf depth first rest with
      | (start, below) :: more => (start, block :: below) :: more
      | [] => [(first, [block])]

/-- A table while it is put together, and the block of its own that it has. -/
structure Assembly where
  table : Table := []
  own : Option Block := none

def Assembly.addOwn (assembly : Assembly) (block : Block) : Except Issue Assembly :=
  match assembly.own with
  | some first => .error { fault := .duplicateTable first.span, span := block.span }
  | none =>
    if block.isArray then .error { fault := .redefinedAsArray, span := block.span }
    else
      (assembly.table.extend block.entries).map fun table => { table, own := some block }

/-- The range of a value that headers make. -/
def headerSpan : Span := { start := 0, stop := 0 }

/-- A table whose name has `depth` keys, of the blocks that belong to it. Names have at most
`depth + levels` keys. -/
def assemble : Nat → Nat → Assembly → List Block → Except Issue Table
  | 0, _, assembly, _ => .ok assembly.table
  | levels + 1, depth, assembly, blocks => do
    let final ← (members depth blocks).foldlM (fun (assembly : Assembly) member =>
      match member with
      | .own block => assembly.addOwn block
      | .below key first others =>
        match assembly.table.key? key.name with
        | some other => .error { fault := .duplicateKey other.span, span := key.span }
        | none => do
          let value ←
            if first.isArray && first.header.length = depth + 1 then do
              let items ← (itemsOf (depth + 1) first others).mapM fun (block, below) => do
                let table ← Table.extend [] block.entries
                let table ← assemble levels (depth + 1) { table, own := some block } below
                return Value.table headerSpan table
              pure (Value.array headerSpan items)
            else do
              let table ← assemble levels (depth + 1) {} (first :: others)
              pure (Value.table headerSpan table)
          return { assembly with table := assembly.table ++ [(key, value)] })
      assembly
    return final.table

def longestName (blocks : List Block) : Nat :=
  blocks.foldl (fun longest block => max longest block.header.length) 0

def parse (text : String) : Except Issue Table := do
  let blocks ← Block.ofText text
  assemble (longestName blocks + 1) 0 {} blocks

end DirSchema.Toml
