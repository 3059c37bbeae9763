import Conform.Proofs.Leaf.Reading
import Conform.Proofs.Registry.Run
import Conform.Proofs.Schema.Leaf
import Conform.Registry.Builtin

namespace Conform.Leaf
open Conform.Text Registry

-- A name between bars, with blanks around it.
structure Padded where
  before : List Char
  name : String
  after : List Char
  front : ∀ c ∈ before, isBlank c = true
  back : ∀ c ∈ after, isBlank c = true

def Padded.text (piece : Padded) : List Char := piece.before ++ piece.name.toList ++ piece.after

-- A call by its name and arguments; without arguments it has no parentheses.
structure Written where
  name : String
  arguments : List String
  inside : ∀ argument ∈ arguments, ∀ c ∈ argument.toList, c ≠ ',' ∧ c ≠ '(' ∧ c ≠ ')'

namespace Written

def text (call : Written) : List Char :=
  call.name.toList ++
    if call.arguments = [] then [] else '(' :: (join [','] (call.arguments.map String.toList) ++ [')'])

def call (call : Written) : Call := ⟨call.name, call.arguments, .ofList call.text⟩

end Written

section Names

theorem not_reserved {name : String} (fine : nameFault? name = none) {c : Char} (within : c ∈ name.toList) :
    isReserved c = false := (nameFault?_eq_none.mp fine).2.2 c within

theorem trim_name {name : String} (fine : nameFault? name = none) : trim name.toList = name.toList := by
  have tight := (nameFault?_eq_none.mp fine).2.1
  rw [trimmed] at tight
  rw [← String.toList_ofList (l := trim name.toList), tight]

theorem named_of_fine {name : String} (fine : nameFault? name = none) : ∃ c ∈ name.toList, isBlank c = false := by
  refine trim_ne_nil.mp fun empty => (nameFault?_eq_none.mp fine).1 ?_
  rw [trim_name fine] at empty
  exact String.toList_eq_nil_iff.mp empty

theorem isBlank_apart {c : Char} (blank : isBlank c = true) : c ≠ '|' ∧ c ≠ '@' :=
  ⟨ne_of_isBlank blank rfl, ne_of_isBlank blank rfl⟩

namespace Padded

theorem trim_text (piece : Padded) (fine : nameFault? piece.name = none) : trim piece.text = piece.name.toList :=
  trim_padded piece.front piece.back (trim_name fine)

theorem text_plain (piece : Padded) (fine : nameFault? piece.name = none) : '|' ∉ piece.text ∧ '@' ∉ piece.text := by
  have apart : ∀ c ∈ piece.text, c ≠ '|' ∧ c ≠ '@' := by
    intro c within
    rw [text, List.mem_append, List.mem_append] at within
    rcases within with (ahead | inside) | behind
    · exact isBlank_apart (piece.front c ahead)
    · have free := not_reserved fine inside
      constructor <;> rintro rfl <;> cases free
    · exact isBlank_apart (piece.back c behind)
  exact ⟨fun bar => (apart _ bar).1 rfl, fun mark => (apart _ mark).2 rfl⟩

end Padded

theorem Written.exists_phrase (call : Written) (fine : nameFault? call.name = none) :
    ∃ phrase : Phrase, phrase.text = call.text ∧ phrase.call = call.call := by
  have plain : ∀ c ∈ call.name.toList, c ≠ '(' ∧ c ≠ ')' ∧ c ≠ '@' := by
    intro c within
    have free := not_reserved fine within
    refine ⟨?_, ?_, ?_⟩ <;> rintro rfl <;> cases free
  let phrase : Phrase := ⟨call.name.toList, call.arguments.map String.toList, plain, named_of_fine fine, by
    simpa using call.inside⟩
  have text : phrase.text = call.text := by
    rw [Phrase.text, Written.text]
    cases listed : call.arguments with
    | nil => simp [phrase, listed, Phrase.list]
    | cons first more => simp [phrase, listed, Phrase.list]
  refine ⟨phrase, text, ?_⟩
  rw [Phrase.call, text, Written.call, show phrase.name = call.name.toList from rfl, trim_name fine]
  simp [phrase]

theorem Written.transform_text {call : Written} (fine : nameFault? call.name = none)
    (transforms : Table Transform.Factory) : transform transforms (.ofList call.text) = instantiate transforms call.call := by
  obtain ⟨phrase, spelled, called⟩ := call.exists_phrase fine
  rw [← String.toList_ofList (l := call.text)] at spelled
  rw [transform, Call.read_eq_ok.mpr ⟨phrase, spelled, called⟩]

theorem readPartial_spelled {pieces : List Padded} {calls : List Written} {names : List String}
    (some : pieces ≠ []) (fine : ∀ piece ∈ pieces, nameFault? piece.name = none)
    (listed : (pieces.map Padded.name).filter (· != nullName) = names) (distinct : names.Nodup)
    (finely : ∀ call ∈ calls, nameFault? call.name = none) :
    readPartial (.ofList (join ['|'] (pieces.map Padded.text) ++ calls.flatMap fun call => '@' :: call.text)) =
      (⟨names, (pieces.map Padded.name).contains nullName, calls.map Written.call⟩, none) := by
  obtain ⟨phrases, texts, reads⟩ :=
    Derivation.exists_calls id fun (call : Written) within => call.exists_phrase (finely call within)
  let derivation : Derivation := ⟨pieces.map Padded.text, phrases, by simpa using some, by
    rw [List.forall_mem_map]
    exact fun piece within => piece.text_plain (fine piece within)⟩
  have trims : derivation.names = pieces.map Padded.name := by
    rw [Derivation.names, List.map_map]
    refine List.map_congr_left fun piece within => ?_
    rw [Function.comp_apply, piece.trim_text (fine piece within), String.ofList_toList]
  have spelled : derivation.text =
      (String.ofList (join ['|'] (pieces.map Padded.text) ++ calls.flatMap fun call => '@' :: call.text)).toList := by
    rw [String.toList_ofList, ← texts]
    rfl
  have filled : (pieces.map Padded.name).filter (fun name => name != "" && name != nullName) = names := by
    rw [← listed]
    refine List.filter_congr fun name within => ?_
    obtain ⟨piece, there, rfl⟩ := List.mem_map.mp within
    simp [(nameFault?_eq_none.mp (fine piece there)).1]
  rw [Derivation.readPartial_text spelled, Derivation.leaf, trims, filled, eraseDups_of_nodup distinct]
  exact congrArg (fun reads => (Leaf.mk names _ reads, _)) reads

end Names

end Conform.Leaf

namespace Conform.Schema
open Conform.Text Registry Leaf

-- A leaf made of names that were registered, each standing for what it was given last, and of null wherever it likes.
structure Spelling (steps : List Registration) where
  types : List (String × TypeEntry)
  pieces : List Padded
  calls : List (Written × Transform.Factory)
  some : types ≠ []
  distinct : (types.map Prod.fst).Nodup
  given : ∀ row ∈ types, LastType steps row.1 row.2
  listed : (pieces.map Padded.name).filter (· != nullName) = types.map Prod.fst
  called : ∀ call ∈ calls, LastTransform steps call.1.name call.2

namespace Spelling
variable {steps : List Registration}

def text (spelling : Spelling steps) : String :=
  .ofList (join ['|'] (spelling.pieces.map Padded.text) ++ spelling.calls.flatMap fun call => '@' :: call.1.text)

def builds (spelling : Spelling steps) : List (Except String Transform) :=
  spelling.calls.map fun call => call.2.build call.1.arguments

def leaf (spelling : Spelling steps) : Leaf :=
  ⟨spelling.types.map Prod.fst, (spelling.pieces.map Padded.name).contains nullName,
    spelling.calls.map fun call => call.1.call⟩

theorem candidates_leaf (spelling : Spelling steps) : spelling.leaf.candidates = spelling.types.map Prod.fst := by
  have some : (spelling.types.map Prod.fst).isEmpty = false := by
    rw [List.isEmpty_eq_false_iff]
    exact fun none => spelling.some (List.map_eq_nil_iff.mp none)
  rw [candidates, leaf, some]
  rfl

section Registered
variable {registry ready : Registry} (accepted : steps.foldlM tryRegister registry = .ok ready)
include accepted

theorem fine_pieces (spelling : Spelling steps) : ∀ piece ∈ spelling.pieces, nameFault? piece.name = none := by
  intro piece within
  by_cases null : piece.name = nullName
  · rw [null]
    decide
  · have kept : piece.name ∈ (spelling.pieces.map Padded.name).filter (· != nullName) :=
      List.mem_filter.mpr ⟨List.mem_map_of_mem within, by simpa using null⟩
    rw [spelling.listed] at kept
    obtain ⟨row, there, named⟩ := List.mem_map.mp kept
    rw [← named]
    exact (get?_of_lastType accepted (spelling.given row there)).1

theorem readPartial_text (spelling : Spelling steps) : readPartial spelling.text = (spelling.leaf, none) := by
  have some : spelling.pieces ≠ [] := by
    intro none
    have listed := spelling.listed
    rw [none] at listed
    exact spelling.some (List.map_eq_nil_iff.mp listed.symm)
  have finely : ∀ call ∈ spelling.calls.map Prod.fst, nameFault? call.name = none := by
    rw [List.forall_mem_map]
    exact fun call within => (get?_of_lastTransform accepted (spelling.called call within)).1
  have read := readPartial_spelled some (spelling.fine_pieces accepted) spelling.listed spelling.distinct finely
  rwa [List.flatMap_map, List.map_map] at read

theorem lookUp_types (spelling : Spelling steps) :
    (spelling.types.map Prod.fst).map (Rule.lookUp ready.types) = spelling.types.map Except.ok := by
  rw [List.map_map]
  refine List.map_congr_left fun row within => ?_
  rw [Function.comp_apply, Rule.lookUp, (get?_of_lastType accepted (spelling.given row within)).2]

theorem instantiate_calls (spelling : Spelling steps) :
    spelling.leaf.calls.map (instantiate ready.transforms) = spelling.builds := by
  rw [leaf, List.map_map, builds]
  refine List.map_congr_left fun call within => ?_
  rw [Function.comp_apply, instantiate, show call.1.call.name = call.1.name from rfl,
    (get?_of_lastTransform accepted (spelling.called call within)).2]
  rfl

theorem compile_text (spelling : Spelling steps) : Rule.compile ready spelling.text =
    Report.result ⟨(Rule.failures spelling.builds).map .here⟩
      { types := spelling.types
        nullable := spelling.leaf.nullable
        nullEntry := nullEntry ready.types
        transforms := Rule.successes spelling.builds
        expected := spelling.leaf.expected } := by
  have some : spelling.leaf.candidates ≠ [] := by
    rw [candidates_leaf]
    exact fun none => spelling.some (List.map_eq_nil_iff.mp none)
  rw [Rule.compile_of_read (spelling.readPartial_text accepted) some, candidates_leaf,
    spelling.lookUp_types accepted, spelling.instantiate_calls accepted, Rule.failures_map_ok, List.append_nil,
    Rule.successes_map_ok]

end Registered

end Spelling

theorem registered_names_reach_entries {registry ready : Registry} {steps : List Registration}
    (accepted : steps.foldlM tryRegister registry = .ok ready) (spelling : Spelling steps) :
    (∀ transforms, spelling.builds = transforms.map .ok → ∃ rule, Rule.compile ready spelling.text = .ok rule ∧
      rule.types = spelling.types ∧ (rule.nullable = true ↔ nullName ∈ spelling.pieces.map Padded.name) ∧
      rule.transforms = transforms) ∧
    (∀ message, .error message ∈ spelling.builds →
      Rule.compile ready spelling.text = .error ⟨(Rule.failures spelling.builds).map .here⟩) := by
  rw [spelling.compile_text accepted]
  constructor
  · intro transforms built
    rw [built, Rule.failures_map_ok, Rule.successes_map_ok]
    exact ⟨_, Report.result_of_nil rfl _, rfl, List.contains_iff_mem, rfl⟩
  · intro message failed
    refine Report.result_of_ne_nil (fun none => ?_) _
    obtain ⟨_, built⟩ := Rule.failures_eq_nil.mp (List.map_eq_nil_iff.mp none) _ failed
    cases built

-- A transform that tells what it was set up with.
def echo : Transform.Factory := .configurable fun arguments => .ok fun _ => .ok (.array (arguments.map .string))

def seaSteps : List Registration :=
  [.type "int" ⟨Coercion.string, true⟩, .type "sea level" ⟨Coercion.int, true⟩, .transform "say it" echo,
    .type "int" ⟨Coercion.any, false⟩]

-- The names come in another order than they were registered in, and one of them a second time.
def seaSpelling : Spelling seaSteps where
  types := [("sea level", ⟨Coercion.int, true⟩), ("int", ⟨Coercion.any, false⟩)]
  pieces := [⟨['\t'], "sea level", [], by simp; decide, by simp⟩, ⟨[], "null", [' '], by simp, by simp; decide⟩,
    ⟨[' '], "int", [' '], by simp; decide, by simp; decide⟩]
  calls := [(⟨"say it", [" a@b", ""], by simp⟩, echo), (⟨"say it", [], by simp⟩, echo)]
  some := by decide
  distinct := by decide
  given := by
    intro row within
    simp only [List.mem_cons, List.not_mem_nil, or_false] at within
    rcases within with rfl | rfl
    · refine ⟨[.type "int" ⟨Coercion.string, true⟩], _, rfl, ?_⟩
      simp [GivesType]
    · exact ⟨[.type "int" ⟨Coercion.string, true⟩, .type "sea level" ⟨Coercion.int, true⟩, .transform "say it" echo],
        [], rfl, by simp⟩
  listed := by decide
  called := by
    intro call within
    have last : LastTransform seaSteps "say it" echo :=
      ⟨[.type "int" ⟨Coercion.string, true⟩, .type "sea level" ⟨Coercion.int, true⟩], _, rfl, by simp [GivesTransform]⟩
    simp only [List.mem_cons, List.not_mem_nil, or_false] at within
    rcases within with rfl | rfl <;> exact last

theorem seaSpelling_reached : ∃ ready rule, seaSteps.foldlM tryRegister builtin = .ok ready ∧
    Rule.compile ready "\tsea level|null | int @say it( a@b,)@say it" = .ok rule ∧
    rule.types = [("sea level", ⟨Coercion.int, true⟩), ("int", ⟨Coercion.any, false⟩)] ∧ rule.nullable = true ∧
    rule.transforms = [fun _ => .ok (.array [.string " a@b", .string ""]), fun _ => .ok (.array [])] := by
  have fine : ∀ step ∈ seaSteps, nameFault? step.name = none := by decide
  have accepted := accepted_of_fine fine builtin
  have text : seaSpelling.text = "\tsea level|null | int @say it( a@b,)@say it" := by decide
  obtain ⟨rule, compiled, types, nullable, transforms⟩ :=
    (registered_names_reach_entries accepted seaSpelling).1
      [fun _ => .ok (.array [.string " a@b", .string ""]), fun _ => .ok (.array [])] rfl
  rw [text] at compiled
  exact ⟨_, rule, accepted, compiled, types, nullable.mpr (by decide), transforms⟩

end Conform.Schema
