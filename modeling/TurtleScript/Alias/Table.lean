import TurtleScript.Data.Value
import TurtleScript.Language.Kind
import TurtleScript.Language.Token
import TurtleScript.Number.Literal

/-!
Alias tables: the words that a learner uses for the commands. A configuration adds words to a table.
It is applied as a whole or not at all, and it cannot give a word of the table another meaning:
every word stands for one command, and those that were there keep theirs.
-/
namespace TurtleScript

open Text

/-! ## Configurations -/

/-- Aliases as a configuration groups them. -/
inductive AliasEntry where
  /-- No alias. -/
  | none
  /-- One alias. -/
  | word (spelling : String)
  /-- Entries in order. -/
  | group (items : List AliasEntry)
  /-- A record, by its keys. -/
  | record (keys : List Value)
  /-- Something that names nothing. -/
  | other
deriving Inhabited

namespace AliasEntry

/-- Whether two keys of a record are one: numbers by value, a truth value being 0 or 1. -/
def sameKey : Value → Value → Bool
  | .bool a, .bool b => a == b
  | .bool a, .number n => n.sameValue (.whole (if a then 1 else 0))
  | .number n, .bool a => n.sameValue (.whole (if a then 1 else 0))
  | .number m, .number n => m.sameValue n
  | .text a, .text b => a == b
  | .null, .null => true
  | _, _ => false

/-- The keys of a record: of those that are one, the first counts. -/
def distinctKeys : List Value → List Value
  | [] => []
  | key :: rest => key :: (distinctKeys rest).filter fun other => !sameKey key other

/-- The entry of a record with the given keys. -/
def ofKeys (keys : List Value) : AliasEntry :=
  .record (distinctKeys keys)

/-- The keys of a record as they are shown, which is how they are used as aliases. -/
def shownKeys : List Value → Except NumberFault (List String)
  | [] => .ok []
  | key :: rest => do
    let spelling ← key.shown
    let others ← shownKeys rest
    return spelling :: others

mutual

/-- `UserInterfaceMapper._extract_aliases`: the aliases of an entry in order. -/
def aliases : AliasEntry → Except NumberFault (List String)
  | .none => .ok []
  | .word spelling => .ok [spelling]
  | .group items => aliasesOfAll items
  | .record keys => shownKeys keys
  | .other => .ok []

/-- The aliases of entries in order. -/
def aliasesOfAll : List AliasEntry → Except NumberFault (List String)
  | [] => .ok []
  | item :: rest => do
    let first ← item.aliases
    let others ← aliasesOfAll rest
    return first ++ others

end

end AliasEntry

/-- A name of a record that gives aliases: one alias or a group of them. -/
inductive AliasKey where
  /-- One alias. -/
  | word (spelling : String)
  /-- Aliases in order. -/
  | group (aliases : List String)
deriving Repr, DecidableEq

/-- The entry of a key. -/
def AliasKey.entry : AliasKey → AliasEntry
  | .word spelling => .word spelling
  | .group aliases => .group (aliases.map .word)

/-- What is to be added to an alias table. -/
inductive AliasConfig where
  /-- Aliases with the name of their command. -/
  | named (entries : List (AliasEntry × Value))
  /-- Aliases by the slot of their command. -/
  | slots (entries : List AliasEntry)
  /-- Neither of the two. -/
  | unusable

/-- The configuration of keys with the name of their command; of equal keys the last one counts. -/
def AliasConfig.ofPairs (pairs : List (AliasKey × Value)) : AliasConfig :=
  .named ((Table.ofPairs pairs).map fun pair => (pair.1.entry, pair.2))

/-- The configuration that a record spells: its names are comma-separated groups of aliases. -/
def AliasConfig.ofFields (fields : List (String × Value)) : AliasConfig :=
  .ofPairs (fields.map fun field => (.group (commaParts field.1), field.2))

/-! ## Refusals -/

/-- An alias that would stand for two commands. -/
structure Collision where
  /-- The alias as words are compared. -/
  word : String
  /-- What it stands for. -/
  existing : Kind
  /-- What it should stand for too. -/
  given : Kind
deriving Repr, DecidableEq

/-- The wording of a collision. -/
def Collision.message (c : Collision) : String :=
  s!"'{c.word}' → conflict between {c.existing.name} and {c.given.name}"

/-- `MappingError`: why a configuration is refused. -/
inductive AliasFault where
  /-- A command that does not exist, as it is shown. -/
  | unknownCommand (shown : String)
  /-- An alias that no program could use as a command. -/
  | invalidAlias (spelling : String)
  /-- More slots than there are commands. -/
  | tooManySlots
  /-- A configuration of no usable form. -/
  | unusable
  /-- Aliases that would stand for two commands. -/
  | collisions (found : List Collision)
  /-- A command that does not exist or a key of a record is a number too long to be shown. -/
  | number (fault : NumberFault)
deriving Repr, DecidableEq

/-- The wording of a refusal. -/
def AliasFault.message : AliasFault → String
  | .unknownCommand shown => s!"Unknown command name: {shown}"
  | .invalidAlias spelling => s!"Invalid alias: {quoted spelling}"
  | .tooManySlots => "Too many entries in list-mode config"
  | .unusable => "Configuration must be either a list or a dict"
  | .collisions _ => "Alias collision(s) detected"
  | .number fault => fault.message

/-- The collisions that a refusal lists. -/
def AliasFault.conflicts : AliasFault → List String
  | .collisions found => found.map Collision.message
  | _ => []

/-! ## Words -/

/-- `UserInterfaceMapper._check_alias`: the word that an alias is used as, if a program can use it:
it is one word of the language and no number. -/
@[irreducible] def aliasWord? (spelling : String) : Option String :=
  let word := upper (strip spelling)
  if word.isEmpty || word.toList.any endsWord || isNumeral word then none else some word

/-- The command of a name. -/
def commandNamed? : Value → Option Kind
  | .text name => Kind.command? name
  | _ => none

/-- The refusal of a command that does not exist; one that cannot be shown is a fault of its own. -/
def AliasFault.ofUnknown (command : Value) : AliasFault :=
  match command.shown with
  | .error fault => .number fault
  | .ok shown => .unknownCommand shown

/-- The command of a name, if there is one. -/
def commandOf (name : Value) : Except AliasFault Kind :=
  match commandNamed? name with
  | none => .error (.ofUnknown name)
  | some kind => .ok kind

/-- The aliases of entries with their commands. Of each entry in order the command is looked at
first. -/
def listedAliases :
    List (AliasEntry × Except AliasFault Kind) → Except AliasFault (List (String × Kind))
  | [] => .ok []
  | (_, .error fault) :: _ => .error fault
  | (entry, .ok kind) :: rest =>
    match entry.aliases with
    | .error fault => .error (.number fault)
    | .ok spellings => (listedAliases rest).map (spellings.map (·, kind) ++ ·)

/-- The aliases of a configuration with their commands. -/
def AliasConfig.pairs : AliasConfig → Except AliasFault (List (String × Kind))
  | .named entries => listedAliases (entries.map fun entry => (entry.1, commandOf entry.2))
  | .slots entries =>
    if entries.length > Kind.canonical.length then .error .tooManySlots
    else listedAliases (entries.zip (Kind.canonical.map .ok))
  | .unusable => .error .unusable

/-! ## Tables -/

/-- `UserInterfaceMapper`: the words for the commands. -/
structure AliasTable where
  /-- The words that programs may use. -/
  words : Keywords
  /-- The words as they are listed. -/
  listed : Keywords

/-- `UserInterfaceMapper.configure`, the loop over the aliases: gathers the words of new aliases in
`fresh`, together with the collisions among them and with the words there are. The first invalid
alias ends it. -/
def gather (words fresh : Keywords) :
    List (String × Kind) → Except AliasFault (Keywords × List Collision)
  | [] => .ok (fresh, [])
  | (spelling, kind) :: rest =>
    match aliasWord? spelling with
    | none => .error (.invalidAlias spelling)
    | some word =>
      let existing := ((fresh.lookup word).or (words.lookup word)).getD kind
      if existing = kind then gather words (Table.set word kind fresh) rest
      else
        (gather words fresh rest).map fun (gathered, collisions) =>
          (gathered, ⟨word, existing, kind⟩ :: collisions)

namespace AliasTable

/-- A table without words. -/
def empty : AliasTable := ⟨[], []⟩

/-- The table after new aliases were added. -/
def add (t : AliasTable) (pairs : List (String × Kind)) : Except AliasFault AliasTable :=
  match gather t.words [] pairs with
  | .error fault => .error fault
  | .ok (fresh, []) => .ok ⟨Table.update t.words fresh, Table.update t.listed fresh⟩
  | .ok (_, collisions) => .error (.collisions collisions)

/-- `UserInterfaceMapper.configure`: the table after a configuration. -/
def configure (t : AliasTable) (config : AliasConfig) : Except AliasFault AliasTable :=
  match config.pairs with
  | .error fault => .error fault
  | .ok pairs => t.add pairs

/-- `UserInterfaceMapper.from_canonical`: the table of the words that every program may use. -/
def standard : AliasTable := ⟨Keywords.standard, Keywords.standard⟩

/-- `UserInterfaceMapper.resolve`: the command that a word stands for. -/
def resolve (t : AliasTable) (word : String) : Option Kind :=
  t.words.lookup (upper word)

/-- `UserInterfaceMapper.session_diff`: the words that were added to the standard ones. -/
def additions (t : AliasTable) : Keywords :=
  t.words.filter fun entry => Keywords.standard.lookup entry.1 ≠ some entry.2

end AliasTable

/-! ## Listings -/

/-- The words of a table in order. -/
def Keywords.sorted (keywords : Keywords) : Keywords :=
  keywords.mergeSort fun a b => decide (a.1 ≤ b.1)

/-- One word and its command. -/
def aliasLine (entry : String × Kind) : String :=
  s!"{alignRight 12 entry.1} → {entry.2.name}"

/-- One word, its command and the slot of the command. -/
def aliasSlotLine (entry : String × Kind) : String :=
  s!"{alignRight 12 entry.1} → {alignLeft 8 entry.2.name} (slot {Kind.canonical.idxOf entry.2})"

/-- `UserInterfaceMapper.report`: the words of a table, one to a line; a full listing also gives the
slots. -/
def AliasTable.listing (t : AliasTable) (full : Bool) : String :=
  lines (t.listed.sorted.map (if full then aliasSlotLine else aliasLine))

/-- The words that were added, one to a line. -/
def AliasTable.additionsListing (t : AliasTable) : String :=
  lines (t.additions.sorted.map aliasLine)

end TurtleScript
