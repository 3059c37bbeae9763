import Conform.Proofs.Coercion.Tower
import Conform.Proofs.Registry.Builtin
import Conform.Proofs.Text.Language

namespace Conform.Email
open Conform.Text

section Grammar

-- The parts of the pattern: names between points, anything between quotes, and two or more labels.
def names : Language Char := atLeast 1 (single isPlain)

def point : Language Char := single (· == '.')

def dotted : Language Char := names * atLeast 0 (point * names)

def quoted : Language Char := single (· == '"') * atLeast 1 (single (· != '\n')) * single (· == '"')

def domains : Language Char := atLeast 1 (names * point) * atLeast 2 (single isPlain)

def pattern : Language Char := (dotted + quoted) * single (· == '@') * domains

end Grammar

section Shape

-- One or more names with points in between.
def Dotted (text : List Char) : Prop :=
  ∃ names, names ≠ [] ∧ (∀ name ∈ names, isName name = true) ∧ text = join ['.'] names

-- Two quotes around something that has no line feed.
def Quoted (text : List Char) : Prop := ∃ inner, inner ≠ [] ∧ '\n' ∉ inner ∧ text = '"' :: (inner ++ ['"'])

-- Two or more labels with points in between, the last of at least two characters.
def Domain (text : List Char) : Prop :=
  ∃ names last, names ≠ [] ∧ (∀ name ∈ names, isName name = true) ∧ isName last = true ∧ 2 ≤ last.length ∧
    text = join ['.'] (names ++ [last])

-- A mailbox and a domain around the last at sign.
def Address (text : List Char) : Prop :=
  ∃ mailbox domain, text = mailbox ++ '@' :: domain ∧ '@' ∉ domain ∧ (Dotted mailbox ∨ Quoted mailbox) ∧ Domain domain

theorem isName_iff {text : List Char} : isName text = true ↔ text ≠ [] ∧ ∀ c ∈ text, isPlain c = true := by
  simp [isName]

theorem not_mem_name {text : List Char} (name : isName text = true) {c : Char} (rough : isPlain c = false) : c ∉ text := by
  intro within
  rw [(isName_iff.mp name).2 c within] at rough
  cases rough

theorem split_join_names {names : List (List Char)} (some : names ≠ []) (named : ∀ name ∈ names, isName name = true) :
    split '.' (join ['.'] names) = names :=
  split_join some fun name within => not_mem_name (named name within) (by decide)

end Shape

section Pattern
variable {text : List Char}

theorem mem_names : text ∈ names ↔ isName text = true := by
  rw [names, mem_atLeast_single, isName_iff, Nat.one_le_iff_ne_zero, ne_eq, List.length_eq_zero_iff]

theorem mem_point_names : text ∈ point * names ↔ ∃ name, isName name = true ∧ text = '.' :: name := by
  rw [Language.mem_mul]
  constructor
  · rintro ⟨_, ⟨c, found, rfl⟩, name, named, rfl⟩
    exact ⟨name, mem_names.mp named, congrArg (· :: name) (eq_of_beq found)⟩
  · rintro ⟨name, named, rfl⟩
    exact ⟨['.'], ⟨'.', rfl, rfl⟩, name, mem_names.mpr named, rfl⟩

theorem mem_names_point : text ∈ names * point ↔ ∃ name, isName name = true ∧ text = name ++ ['.'] := by
  rw [Language.mem_mul]
  constructor
  · rintro ⟨name, named, _, ⟨c, found, rfl⟩, rfl⟩
    exact ⟨name, mem_names.mp named, congrArg (name ++ [·]) (eq_of_beq found)⟩
  · rintro ⟨name, named, rfl⟩
    exact ⟨name, mem_names.mpr named, ['.'], ⟨'.', rfl, rfl⟩, rfl⟩

theorem mem_dotted : text ∈ dotted ↔ Dotted text := by
  simp only [dotted, Language.mem_mul, mem_names, mem_atLeast_iff fun _ => mem_point_names]
  constructor
  · rintro ⟨first, named, _, ⟨more, _, all, rfl⟩, rfl⟩
    exact ⟨first :: more, List.cons_ne_nil _ _, List.forall_mem_cons.mpr ⟨named, all⟩, (join_cons ['.'] first more).symm⟩
  · rintro ⟨names, some, named, rfl⟩
    cases names with
    | nil => exact absurd rfl some
    | cons first more =>
        rw [List.forall_mem_cons] at named
        exact ⟨first, named.1, _, ⟨more, Nat.zero_le _, named.2, rfl⟩, (join_cons ['.'] first more).symm⟩

theorem mem_quoted : text ∈ quoted ↔ Quoted text := by
  simp only [quoted, Language.mem_mul, mem_atLeast_single]
  constructor
  · rintro ⟨_, ⟨_, ⟨c, opening, rfl⟩, inner, ⟨some, free⟩, rfl⟩, _, ⟨d, closing, rfl⟩, rfl⟩
    refine ⟨inner, List.length_pos_iff.mp some, fun within => ?_, ?_⟩
    · exact absurd (free '\n' within) (by decide)
    · rw [eq_of_beq opening, eq_of_beq closing]
      rfl
  · rintro ⟨inner, some, free, rfl⟩
    refine ⟨'"' :: inner, ⟨['"'], ⟨'"', rfl, rfl⟩, inner, ⟨List.length_pos_iff.mpr some, fun c within => ?_⟩, rfl⟩,
      ['"'], ⟨'"', rfl, rfl⟩, rfl⟩
    exact bne_iff_ne.mpr fun same => free (same ▸ within)

theorem mem_domains : text ∈ domains ↔ Domain text := by
  simp only [domains, Language.mem_mul, mem_atLeast_iff fun _ => mem_names_point, mem_atLeast_single]
  constructor
  · rintro ⟨_, ⟨names, some, named, rfl⟩, last, ⟨long, plain⟩, rfl⟩
    have named' : isName last = true := isName_iff.mpr ⟨List.length_pos_iff.mp (Nat.lt_of_succ_lt long), plain⟩
    exact ⟨names, last, List.length_pos_iff.mp some, named, named', long, (join_concat ..).symm⟩
  · rintro ⟨names, last, some, named, ending, long, rfl⟩
    exact ⟨_, ⟨names, List.length_pos_iff.mpr some, named, rfl⟩, last, ⟨long, (isName_iff.mp ending).2⟩,
      (join_concat ..).symm⟩

-- Labels hold no at sign, so that the one in front of a domain is the last.
theorem Domain.free (domain : Domain text) : '@' ∉ text := by
  obtain ⟨names, last, _, named, ending, _, rfl⟩ := domain
  intro within
  rcases mem_join within with same | ⟨name, listed, inside⟩
  · cases same
  · rcases List.mem_append.mp listed with early | late
    · exact not_mem_name (named name early) (by decide) inside
    · cases List.mem_singleton.mp late
      exact not_mem_name ending (by decide) inside

theorem mem_pattern : text ∈ pattern ↔ Address text := by
  simp only [pattern, Language.mem_mul, Language.mem_add, mem_dotted, mem_quoted, mem_domains]
  constructor
  · rintro ⟨_, ⟨mailbox, known, _, ⟨c, found, rfl⟩, rfl⟩, domain, labels, rfl⟩
    refine ⟨mailbox, domain, ?_, labels.free, known, labels⟩
    rw [eq_of_beq found, List.append_assoc]
    rfl
  · rintro ⟨mailbox, domain, rfl, _, known, labels⟩
    exact ⟨mailbox ++ ['@'], ⟨mailbox, known, ['@'], ⟨'@', rfl, rfl⟩, rfl⟩, domain, labels, by simp⟩

end Pattern

section Decision
variable {text : List Char}

theorem all_split_iff : (split '.' text).all isName = true ↔ Dotted text := by
  constructor
  · intro named
    exact ⟨split '.' text, split_ne_nil '.' text, List.all_eq_true.mp named, (join_split '.' text).symm⟩
  · rintro ⟨names, some, named, rfl⟩
    rw [split_join_names some named]
    exact List.all_eq_true.mpr named

theorem isQuoted_iff : isQuoted text = true ↔ Quoted text := by
  simp only [isQuoted, Bool.and_eq_true, decide_eq_true_eq, beq_iff_eq, List.all_eq_true, bne_iff_ne]
  constructor
  · rintro ⟨⟨⟨long, opening⟩, closing⟩, free⟩
    obtain ⟨front, rfl⟩ := List.getLast?_eq_some_iff.mp closing
    cases front with
    | nil => exact absurd long (by decide)
    | cons c inner =>
        cases opening
        refine ⟨inner, ?_, fun within => free '\n' (by simpa using within) rfl, rfl⟩
        rintro rfl
        exact absurd long (by decide)
  · rintro ⟨inner, some, free, rfl⟩
    have long : 1 ≤ inner.length := List.length_pos_iff.mpr some
    refine ⟨⟨⟨?_, rfl⟩, ?_⟩, fun c within => ?_⟩
    · rw [List.length_cons, List.length_append, List.length_singleton]
      exact Nat.succ_le_succ (Nat.succ_le_succ long)
    · exact List.getLast?_concat (l := '"' :: inner)
    · rintro rfl
      exact free (by simpa using within)

theorem isMailbox_iff : isMailbox text = true ↔ Dotted text ∨ Quoted text := by
  rw [isMailbox, Bool.or_eq_true, all_split_iff, isQuoted_iff]

theorem isDomain_iff : isDomain text = true ↔ Domain text := by
  simp only [isDomain, Bool.and_eq_true, decide_eq_true_eq, List.all_eq_true]
  constructor
  · rintro ⟨⟨named, several⟩, long⟩
    obtain ⟨last, ending, long⟩ := (Option.any_eq_true _ _).mp long
    obtain ⟨names, labels⟩ := List.getLast?_eq_some_iff.mp ending
    rw [labels, List.forall_mem_append, List.forall_mem_singleton] at named
    rw [labels, List.length_append, List.length_singleton] at several
    refine ⟨names, last, List.length_pos_iff.mp (Nat.le_of_succ_le_succ several), named.1, named.2,
      decide_eq_true_eq.mp long, ?_⟩
    rw [← labels, join_split]
  · rintro ⟨names, last, some, named, ending, long, rfl⟩
    have all : ∀ name ∈ names ++ [last], isName name = true := by
      rw [List.forall_mem_append, List.forall_mem_singleton]
      exact ⟨named, ending⟩
    rw [split_join_names (by simp) all]
    refine ⟨⟨all, ?_⟩, ?_⟩
    · rw [List.length_append, List.length_singleton]
      exact Nat.succ_le_succ (List.length_pos_iff.mpr some)
    · rw [List.getLast?_concat]
      exact decide_eq_true long

theorem isAddress_append {mailbox domain : List Char} (free : '@' ∉ domain) :
    isAddress (mailbox ++ '@' :: domain) = (isMailbox mailbox && isDomain domain) := by
  have back : ((mailbox ++ '@' :: domain).reverse.takeWhile (· != '@')).reverse = domain := by
    rw [List.reverse_append, List.reverse_cons, List.append_assoc, List.reverse_eq_iff]
    refine takeWhile_stop (fun c within => bne_iff_ne.mpr ?_) fun c first => ?_
    · rintro rfl
      exact free (List.mem_reverse.mp within)
    · cases first
      rfl
  have front : (mailbox ++ '@' :: domain).take ((mailbox ++ '@' :: domain).length - domain.length) =
      mailbox ++ ['@'] := by
    rw [show mailbox ++ '@' :: domain = (mailbox ++ ['@']) ++ domain by simp]
    have whole : ((mailbox ++ ['@']) ++ domain).length = (mailbox ++ ['@']).length + domain.length :=
      List.length_append
    exact List.take_left' (by rw [whole, Nat.add_sub_cancel])
  simp only [isAddress, back, front, List.getLast?_concat, List.dropLast_concat, beq_self_eq_true, Bool.true_and]

theorem isAddress_of_not_mem (none : '@' ∉ text) : isAddress text = false := by
  have back : (text.reverse.takeWhile (· != '@')).reverse = text := by
    rw [List.reverse_eq_iff, List.takeWhile_eq_self_iff]
    exact fun c within => bne_iff_ne.mpr fun same => none (List.mem_reverse.mp (same ▸ within))
  simp [isAddress, back]

theorem exists_last_at (within : '@' ∈ text) : ∃ mailbox domain, text = mailbox ++ '@' :: domain ∧ '@' ∉ domain := by
  obtain ⟨back, front, whole, free⟩ := List.eq_append_cons_of_mem (List.mem_reverse.mpr within)
  refine ⟨front.reverse, back.reverse, ?_, mt List.mem_reverse.mp free⟩
  rw [← List.reverse_reverse text, whole]
  simp

theorem isAddress_iff : isAddress text = true ↔ Address text := by
  constructor
  · intro accepted
    have within : '@' ∈ text := Decidable.byContradiction fun none => by
      rw [isAddress_of_not_mem none] at accepted
      cases accepted
    obtain ⟨mailbox, domain, rfl, free⟩ := exists_last_at within
    rw [isAddress_append free, Bool.and_eq_true, isMailbox_iff, isDomain_iff] at accepted
    exact ⟨mailbox, domain, rfl, free, accepted⟩
  · rintro ⟨mailbox, domain, rfl, free, known⟩
    rwa [isAddress_append free, Bool.and_eq_true, isMailbox_iff, isDomain_iff]

-- An at sign between quotes is not the one that counts.
example : isAddress "\"a@b\"@example.org".toList = true := by decide

end Decision

end Conform.Email

namespace Conform.Registry

-- The type takes what the pattern matches and what has the shape of an address, which are the same texts, as they are.
theorem email_takes_pattern (value : Json) :
    ((Loose.text value).toList ∈ Email.pattern ↔ Email.Address (Loose.text value).toList) ∧
    (∀ canonical, check builtinTypes "email" value = .ok canonical ↔
      Email.Address (Loose.text value).toList ∧ canonical = .string (Loose.text value)) ∧
    (check builtinTypes "email" value = .error (.rejected "email") ↔ ¬ Email.Address (Loose.text value).toList) := by
  have found : builtinTypes.get? "email" = some ⟨Coercion.email, false⟩ := rfl
  have accepted (canonical : Json) : check builtinTypes "email" value = .ok canonical ↔
      Email.Address (Loose.text value).toList ∧ canonical = .string (Loose.text value) := by
    rw [check_eq_ok found, Coercion.email_eq_some, Email.isAddress_iff]
  refine ⟨Email.mem_pattern, accepted, fun refused address => ?_, fun other => check_eq_rejected found ?_⟩
  · rw [(accepted _).mpr ⟨address, rfl⟩] at refused
    cases refused
  · refine Option.eq_none_iff_forall_ne_some.mpr fun canonical taken => other ?_
    exact ((accepted canonical).mp ((check_eq_ok found).mpr taken)).1

end Conform.Registry
