import LiveCounter.Topic
import Mathlib.Data.List.DropRight
import Mathlib.Logic.Function.Basic

/-!
# Names of topics

Two texts name a topic if what is left of each, without the slashes at its ends, is a word of the
grammar: 3 to 64 characters of one class. The program counts bytes instead; a word has as many of
them as characters, since each character of the class is a single byte, and a text with a wider
character is refused whatever its size. The colon between namespace and key is not of the class, so
the first colon of a full name is the one between them, and the name tells both.
-/

namespace LiveCounter

namespace Segment

variable {text core : String}

/-! ## Slashes at the ends -/

/-- What is left of a text when all slashes before and behind it are taken off. -/
structure Stripped (text core : String) : Prop where
  around : ∃ before behind, text.toList =
    List.replicate before '/' ++ core.toList ++ List.replicate behind '/'
  first : core.toList.head? ≠ some '/'
  last : core.toList.getLast? ≠ some '/'

/-- Trimming takes the slashes off both ends. -/
theorem toList_trimSlashes (text : String) :
    (trimSlashes text).toList = (text.toList.dropWhile (· == '/')).rdropWhile (· == '/') := by
  rw [trimSlashes, String.toList_ofList, List.rdropWhile]

/-- What is taken off the front is a row of slashes. -/
theorem takeWhile_slash (cs : List Char) :
    cs.takeWhile (· == '/') = List.replicate (cs.takeWhile (· == '/')).length '/' :=
  List.eq_replicate_of_mem fun _ hc =>
    beq_iff_eq.mp (List.mem_takeWhile_imp (p := fun c => c == '/') hc)

/-- What is left does not begin with a slash. -/
theorem head?_dropWhile_slash (cs : List Char) :
    (cs.dropWhile (· == '/')).head? ≠ some '/' := by
  intro h
  have hfirst := List.head?_dropWhile_not (· == '/') cs
  rw [h] at hfirst
  exact absurd hfirst (by decide)

/-- Slashes in front are dropped, up to a character that is none. -/
theorem dropWhile_slashes_append (n : Nat) {cs : List Char} (h : cs.head? ≠ some '/') :
    (List.replicate n '/' ++ cs).dropWhile (· == '/') = cs := by
  rw [List.dropWhile_append_of_pos fun c hc => beq_iff_eq.mpr (List.eq_of_mem_replicate hc)]
  cases cs with
  | nil => rfl
  | cons c rest => exact List.dropWhile_cons_of_neg (by simpa using h)

/-- Slashes behind are dropped, back to a character that is none. -/
theorem rdropWhile_append_slashes (n : Nat) {cs : List Char} (h : cs.getLast? ≠ some '/') :
    (cs ++ List.replicate n '/').rdropWhile (· == '/') = cs := by
  have hlast : cs.reverse.head? ≠ some '/' := by rwa [List.head?_reverse]
  rw [List.rdropWhile, List.reverse_append, List.reverse_replicate,
    dropWhile_slashes_append n hlast, List.reverse_reverse]

/-- What the program takes is bare at both ends: dropping behind leaves the first character. -/
theorem stripped_trimSlashes (text : String) : Stripped text (trimSlashes text) := by
  have hbehind := List.rdropWhile_append_rtakeWhile (p := (· == '/'))
    (l := text.toList.dropWhile (· == '/'))
  refine ⟨⟨(text.toList.takeWhile (· == '/')).length,
    ((text.toList.dropWhile (· == '/')).reverse.takeWhile (· == '/')).length, ?_⟩, ?_, ?_⟩
  · rw [List.rtakeWhile, takeWhile_slash, List.reverse_replicate] at hbehind
    rw [toList_trimSlashes, List.append_assoc, hbehind, ← takeWhile_slash,
      List.takeWhile_append_dropWhile]
  · rw [toList_trimSlashes]
    intro hfirst
    have hdropped := congrArg List.head? hbehind
    rw [List.head?_append, hfirst, Option.some_or] at hdropped
    exact head?_dropWhile_slash _ hdropped.symm
  · rw [toList_trimSlashes, List.rdropWhile, List.getLast?_reverse]
    exact head?_dropWhile_slash _

/-- Nothing else is left of a text without its slashes than what the program takes. -/
theorem stripped_iff : Stripped text core ↔ core = trimSlashes text := by
  constructor
  · rintro ⟨⟨before, behind, htext⟩, hfirst, hlast⟩
    rw [← String.toList_inj, toList_trimSlashes, htext, List.append_assoc]
    -- If nothing is left, the slashes behind are dropped with those in front.
    by_cases hempty : core.toList = []
    · have hslashes : List.replicate before '/' ++ List.replicate behind '/' =
          List.replicate (before + behind) '/' ++ [] := by simp
      rw [hempty, List.nil_append, hslashes, dropWhile_slashes_append _ (by simp),
        List.rdropWhile_nil]
    · have hstart : (core.toList ++ List.replicate behind '/').head? ≠ some '/' := by
        rwa [List.head?_append_of_ne_nil _ hempty]
      rw [dropWhile_slashes_append before hstart, rdropWhile_append_slashes behind hlast]
  · rintro rfl
    exact stripped_trimSlashes text

/-! ## The grammar -/

/-- The characters of `[A-Za-z0-9_.-]`. -/
def InClass (c : Char) : Prop :=
  ('A' ≤ c ∧ c ≤ 'Z') ∨ ('a' ≤ c ∧ c ≤ 'z') ∨ ('0' ≤ c ∧ c ≤ '9') ∨ c = '_' ∨ c = '.' ∨ c = '-'

instance : DecidablePred InClass := fun _ => inferInstanceAs (Decidable (_ ∨ _))

/-- The words of the grammar: 3 to 64 characters of the class. -/
structure Grammatical (text : String) : Prop where
  least : 3 ≤ text.length
  most : text.length ≤ 64
  inClass : ∀ c ∈ text.toList, InClass c

/-- The characters allowed are those of the class. -/
theorem allowed_iff (c : Char) : allowed c = true ↔ InClass c := by
  have hranges : allowed c =
      ((decide ('A' ≤ c ∧ c ≤ 'Z') || ('a' ≤ c && c ≤ 'z') || ('0' ≤ c && c ≤ '9')) ||
        c == '_' || c == '-' || c == '.') := rfl
  simp only [hranges, InClass, Bool.or_eq_true, Bool.and_eq_true, decide_eq_true_eq, beq_iff_eq]
  tauto

/-- A character of the class is a single byte. -/
theorem InClass.utf8Size_eq_one {c : Char} (h : InClass c) : c.utf8Size = 1 := by
  rw [Char.utf8Size_eq_one_iff]
  rcases h with ⟨-, h⟩ | ⟨-, h⟩ | ⟨-, h⟩ | rfl | rfl | rfl
  · exact UInt32.le_trans h (by decide)
  · exact UInt32.le_trans h (by decide)
  · exact UInt32.le_trans h (by decide)
  all_goals decide

/-- A text of characters of the class has as many bytes as characters. -/
theorem utf8ByteSize_ofList {cs : List Char} (h : ∀ c ∈ cs, InClass c) :
    (String.ofList cs).utf8ByteSize = cs.length := by
  induction cs with
  | nil => rfl
  | cons c rest ih =>
    obtain ⟨hc, hrest⟩ := List.forall_mem_cons.mp h
    rw [String.ofList_cons, String.utf8ByteSize_append, String.utf8ByteSize_singleton,
      hc.utf8Size_eq_one, ih hrest, List.length_cons, Nat.add_comm]

/-- Counting bytes admits the words of the grammar and nothing else. -/
theorem valid_iff_grammatical : Valid text ↔ Grammatical text := by
  have hclass : text.toList.all allowed = true ↔ ∀ c ∈ text.toList, InClass c := by
    simp only [List.all_eq_true, allowed_iff]
  have hsize (h : ∀ c ∈ text.toList, InClass c) : text.utf8ByteSize = text.length := by
    rw [← String.length_toList, ← utf8ByteSize_ofList h, String.ofList_toList]
  constructor
  · rintro ⟨hleast, hmost, hall⟩
    have heq := hsize (hclass.mp hall)
    exact ⟨heq ▸ hleast, heq ▸ hmost, hclass.mp hall⟩
  · rintro ⟨hleast, hmost, hall⟩
    have heq := hsize hall
    exact ⟨heq ▸ hleast, heq ▸ hmost, hclass.mpr hall⟩

/-- A word of the grammar has no characters outside the class. -/
theorem Grammatical.notMem (h : Grammatical text) {c : Char} (hc : ¬ InClass c) :
    c ∉ text.toList :=
  fun hmem => hc (h.inClass c hmem)

/-- A word of the grammar has no slashes to lose. -/
theorem Grammatical.trimSlashes_eq (h : Grammatical text) : trimSlashes text = text := by
  have hslash : '/' ∉ text.toList := h.notMem (by decide)
  have hself : Stripped text text := ⟨⟨0, 0, by simp⟩,
    fun hfirst => hslash (List.mem_of_head? hfirst),
    fun hlast => hslash (List.mem_of_getLast? hlast)⟩
  exact (stripped_iff.mp hself).symm

/-! ## What is wrong with a text -/

/-- The fault of a text that is no word of the grammar: its size in bytes comes first. -/
def faultOf (text : String) : SegmentFault :=
  if 3 ≤ text.utf8ByteSize ∧ text.utf8ByteSize ≤ 64 then .pattern else .length

/-- Two characters are too few, but these have four bytes. -/
example : faultOf "éé" = .pattern := by decide

/-- A text that passes the check is a word of the grammar. -/
theorem grammatical_of_check {done : Unit} (h : check text = .ok done) : Grammatical text :=
  valid_iff_grammatical.mp ((check_eq_ok_iff text).mp h)

/-- The check rejects exactly what is no word of the grammar, with the fault it has. -/
theorem check_eq_error_iff {fault : SegmentFault} :
    check text = .error fault ↔ ¬ Grammatical text ∧ fault = faultOf text := by
  have hsize : (text.utf8ByteSize < minSize ∨ maxSize < text.utf8ByteSize) ↔
      ¬ (3 ≤ text.utf8ByteSize ∧ text.utf8ByteSize ≤ 64) := by
    simp only [minSize, maxSize]
    omega
  have hvalid : Valid text ↔ (3 ≤ text.utf8ByteSize ∧ text.utf8ByteSize ≤ 64) ∧
      text.toList.all allowed = true := and_assoc.symm
  rw [← valid_iff_grammatical, hvalid, check, faultOf]
  simp only [hsize]
  by_cases hin : 3 ≤ text.utf8ByteSize ∧ text.utf8ByteSize ≤ 64
  · by_cases hall : text.toList.all allowed = true
    · simp [hin, hall]
    · rw [if_neg (not_not_intro hin), if_neg hall, if_pos hin, Except.error.injEq]
      exact ⟨fun h => ⟨fun hfits => hall hfits.2, h.symm⟩, fun h => h.2.symm⟩
  · rw [if_pos hin, if_neg hin, Except.error.injEq]
    exact ⟨fun h => ⟨fun hfits => hin hfits.1, h.symm⟩, fun h => h.2.symm⟩

/-- The wording about the size stands for a size in bytes outside 3 to 64 and for nothing else. -/
theorem message_faultOf_iff (text : String) :
    (faultOf text).message = "length must be between 3 and 64 characters inclusive" ↔
      ¬ (3 ≤ text.utf8ByteSize ∧ text.utf8ByteSize ≤ 64) := by
  rw [faultOf]
  split
  · next h => exact iff_of_false (by decide) (not_not_intro h)
  · next h => exact iff_of_true rfl h

end Segment

namespace Topic

open Segment

variable {space key message : String} {topic : Topic}

/-! ## Topics from two texts -/

/-- Two texts name a topic, or the first of them is at fault, or only the second. -/
theorem ofParts_cases (space key : String) :
    (Grammatical (trimSlashes space) ∧ Grammatical (trimSlashes key) ∧
      ∃ topic, ofParts space key = .ok topic ∧
        topic.space = trimSlashes space ∧ topic.key = trimSlashes key) ∨
    (¬ Grammatical (trimSlashes space) ∧
      ofParts space key = .error (.invalidNamespace (faultOf (trimSlashes space)).message)) ∨
    (Grammatical (trimSlashes space) ∧ ¬ Grammatical (trimSlashes key) ∧
      ofParts space key = .error (.invalidKey (faultOf (trimSlashes key)).message)) := by
  unfold ofParts
  dsimp only
  split
  · next fault hspace =>
    obtain ⟨hbad, rfl⟩ := check_eq_error_iff.mp hspace
    exact Or.inr (Or.inl ⟨hbad, rfl⟩)
  · next fault hspace hkey =>
    obtain ⟨hbad, rfl⟩ := check_eq_error_iff.mp hkey
    exact Or.inr (Or.inr ⟨grammatical_of_check hspace, hbad, rfl⟩)
  · next hspace hkey =>
    exact Or.inl ⟨grammatical_of_check hspace, grammatical_of_check hkey, _, rfl, rfl, rfl⟩

/-- Topics with the same parts are the same. -/
theorem eq_of_parts {other : Topic} (hspace : topic.space = other.space)
    (hkey : topic.key = other.key) : topic = other := by
  cases topic
  cases other
  simp_all

/-- Two texts name the topic of what is left of them, if both are words of the grammar then. -/
theorem ofParts_eq_ok_iff :
    ofParts space key = .ok topic ↔
      Grammatical (trimSlashes space) ∧ Grammatical (trimSlashes key) ∧
        topic.space = trimSlashes space ∧ topic.key = trimSlashes key := by
  obtain ⟨hspace, hkey, found, hfound, hparts⟩ | ⟨hspace, hfault⟩ | ⟨hspace, hkey, hfault⟩ :=
    ofParts_cases space key
  · rw [hfound, Except.ok.injEq]
    constructor
    · rintro rfl
      exact ⟨hspace, hkey, hparts⟩
    · rintro ⟨-, -, htopic⟩
      exact eq_of_parts (hparts.1.trans htopic.1.symm) (hparts.2.trans htopic.2.symm)
  · simp [hfault, hspace]
  · simp [hfault, hkey]

/-- The namespace is reported whenever it is at fault. -/
theorem ofParts_eq_invalidNamespace_iff :
    ofParts space key = .error (.invalidNamespace message) ↔
      ¬ Grammatical (trimSlashes space) ∧ message = (faultOf (trimSlashes space)).message := by
  obtain ⟨hspace, -, found, hfound, -⟩ | ⟨hspace, hfault⟩ | ⟨hspace, -, hfault⟩ :=
    ofParts_cases space key
  · simp [hfound, hspace]
  · simp [hfault, hspace, eq_comm]
  · simp [hfault, hspace]

/-- The key is reported if it alone is at fault. -/
theorem ofParts_eq_invalidKey_iff :
    ofParts space key = .error (.invalidKey message) ↔
      Grammatical (trimSlashes space) ∧ ¬ Grammatical (trimSlashes key) ∧
        message = (faultOf (trimSlashes key)).message := by
  obtain ⟨-, hkey, found, hfound, -⟩ | ⟨hspace, hfault⟩ | ⟨hspace, hkey, hfault⟩ :=
    ofParts_cases space key
  · simp [hfound, hkey]
  · simp [hfault, hspace]
  · simp [hfault, hspace, hkey, eq_comm]

/-! ## Full names -/

/-- The first part of a topic is a word of the grammar. -/
theorem grammatical_space (topic : Topic) : Grammatical topic.space :=
  valid_iff_grammatical.mp topic.space_valid

/-- The second part of a topic is a word of the grammar. -/
theorem grammatical_key (topic : Topic) : Grammatical topic.key :=
  valid_iff_grammatical.mp topic.key_valid

/-- The parts of a topic name it again. -/
theorem ofParts_space_key (topic : Topic) : ofParts topic.space topic.key = .ok topic := by
  have hspace := grammatical_space topic
  have hkey := grammatical_key topic
  refine ofParts_eq_ok_iff.mpr ?_
  rw [hspace.trimSlashes_eq, hkey.trimSlashes_eq]
  exact ⟨hspace, hkey, rfl, rfl⟩

/-- The colon of a full name stands neither in the namespace nor in the key. -/
theorem name_injective : Function.Injective name := by
  intro topic other hname
  have hlists : topic.space.toList ++ ':' :: topic.key.toList =
      other.space.toList ++ ':' :: other.key.toList := by
    simpa [name] using congrArg String.toList hname
  have hspaceColon : ':' ∉ topic.space.toList := (grammatical_space topic).notMem (by decide)
  have hkeyColon : ':' ∉ topic.key.toList := (grammatical_key topic).notMem (by decide)
  obtain ⟨hspace, -, hkey⟩ := (List.append_cons_inj_of_notMem hspaceColon hkeyColon).mp hlists
  exact eq_of_parts (String.toList_inj.mp hspace) (String.toList_inj.mp hkey)

/-- Topics are named by the words of the grammar. What the program takes off a text are all slashes
at its ends. Two texts name a topic exactly if both are words then, and the topic holds these words.
Otherwise a namespace at fault is reported whatever the key is, and a key at fault if the namespace
is not; the wording is about the size exactly if the size in bytes is outside 3 to 64. A topic is
named by its own parts, and its full name is that of no other topic. -/
theorem topics_follow_their_grammar :
    (∀ text core, Stripped text core ↔ core = trimSlashes text) ∧
      (∀ space key, (∃ topic, ofParts space key = .ok topic) ↔
        Grammatical (trimSlashes space) ∧ Grammatical (trimSlashes key)) ∧
      (∀ space key topic, ofParts space key = .ok topic ↔
        Grammatical (trimSlashes space) ∧ Grammatical (trimSlashes key) ∧
          topic.space = trimSlashes space ∧ topic.key = trimSlashes key) ∧
      (∀ space key message, ofParts space key = .error (.invalidNamespace message) ↔
        ¬ Grammatical (trimSlashes space) ∧ message = (faultOf (trimSlashes space)).message) ∧
      (∀ space key message, ofParts space key = .error (.invalidKey message) ↔
        Grammatical (trimSlashes space) ∧ ¬ Grammatical (trimSlashes key) ∧
          message = (faultOf (trimSlashes key)).message) ∧
      (∀ text, (faultOf text).message = "length must be between 3 and 64 characters inclusive" ↔
        ¬ (3 ≤ text.utf8ByteSize ∧ text.utf8ByteSize ≤ 64)) ∧
      (∀ topic : Topic, ofParts topic.space topic.key = .ok topic) ∧
      (∀ topic other : Topic, toString topic = toString other ↔ topic = other) := by
  refine ⟨fun _ _ => stripped_iff, fun space key => ⟨?_, ?_⟩, fun _ _ _ => ofParts_eq_ok_iff,
    fun _ _ _ => ofParts_eq_invalidNamespace_iff, fun _ _ _ => ofParts_eq_invalidKey_iff,
    message_faultOf_iff, ofParts_space_key, fun _ _ => name_injective.eq_iff⟩
  · rintro ⟨topic, htopic⟩
    obtain ⟨hspace, hkey, -⟩ := ofParts_eq_ok_iff.mp htopic
    exact ⟨hspace, hkey⟩
  · rintro ⟨hspace, hkey⟩
    obtain ⟨-, -, topic, htopic, -⟩ | ⟨hbad, -⟩ | ⟨-, hbad, -⟩ := ofParts_cases space key
    · exact ⟨topic, htopic⟩
    · exact absurd hspace hbad
    · exact absurd hkey hbad

end Topic

end LiveCounter
