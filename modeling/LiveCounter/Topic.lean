/-!
# Topics

A topic names one counter by a namespace and a key. Both are segments: 3 to 64 characters out of
the ASCII letters, the digits, `_`, `-` and `.`. Slashes around a segment are dropped before it is
checked, the namespace is checked before the key, and the length before the characters. The
alphabet has no colon, so `namespace:key` names the topic without ambiguity.
-/

namespace LiveCounter

/-- Why a text is no segment. -/
inductive SegmentFault where
  | length
  | pattern
  deriving DecidableEq, Repr

/-- The wording of a refused segment. -/
def SegmentFault.message : SegmentFault → String
  | .length => "length must be between 3 and 64 characters inclusive"
  | .pattern => "must match the pattern ^[A-Za-z0-9_\\-.]\x7b3,64\x7d$"

namespace Segment

/-- The characters a segment may hold. -/
def allowed (c : Char) : Bool :=
  c.isAlphanum || c == '_' || c == '-' || c == '.'

/-- The least and the greatest size of a segment, in bytes. -/
def minSize : Nat := 3

/-- The greatest size of a segment, in bytes. -/
def maxSize : Nat := 64

/-- A text is a segment if its size fits and each of its characters is allowed. -/
def Valid (text : String) : Prop :=
  minSize ≤ text.utf8ByteSize ∧ text.utf8ByteSize ≤ maxSize ∧ text.toList.all allowed = true

instance (text : String) : Decidable (Valid text) :=
  inferInstanceAs (Decidable (_ ∧ _ ∧ _))

/-- A text without the slashes at its two ends. -/
def trimSlashes (text : String) : String :=
  let tail := text.toList.dropWhile (· == '/')
  String.ofList (tail.reverse.dropWhile (· == '/')).reverse

/-- Says what is wrong with a text that is no segment. -/
def check (text : String) : Except SegmentFault Unit :=
  if text.utf8ByteSize < minSize ∨ maxSize < text.utf8ByteSize then .error .length
  else if text.toList.all allowed then .ok ()
  else .error .pattern

/-- A text passes the check exactly if it is a segment. -/
theorem check_eq_ok_iff (text : String) : check text = .ok () ↔ Valid text := by
  unfold check Valid
  split
  · simp; omega
  · split <;> simp_all

/-- The characters of a random segment. -/
def alphabet : List Char :=
  "abcdefghijklmnopqrstuvwxyzABCDEFGHIJKLMNOPQRSTUVWXYZ0123456789-_".toList

/-- The number of characters in a random segment. -/
def randomSize : Nat := 16

/-- The character that six random bits choose. -/
def letter (bits : Nat) : Char := alphabet.getD (bits % 64) 'a'

/-- The characters that random bits choose, six bits for each. -/
def letters : (count : Nat) → (entropy : Nat) → List Char
  | 0, _ => []
  | count + 1, entropy => letter entropy :: letters count (entropy / 64)

/-- The segment that random bits choose. -/
def ofEntropy (entropy : Nat) : String :=
  String.ofList (letters randomSize entropy)

/-- Random letters may stand in segments, and take one byte each. -/
theorem letter_allowed (bits : Nat) :
    allowed (letter bits) = true ∧ (letter bits).utf8Size = 1 := by
  have h : ∀ i : Fin 64, allowed (alphabet.getD i 'a') = true ∧
      (alphabet.getD i 'a').utf8Size = 1 := by decide +kernel
  exact h ⟨bits % 64, Nat.mod_lt _ (by decide)⟩

/-- All of the random letters may stand in segments. -/
theorem letters_allowed (count entropy : Nat) :
    (letters count entropy).all allowed = true := by
  induction count generalizing entropy with
  | zero => rfl
  | succ count ih => simp [letters, letter_allowed, ih]

/-- As many bytes as letters were asked for come out. -/
theorem size_letters (count entropy : Nat) :
    (String.ofList (letters count entropy)).utf8ByteSize = count := by
  induction count generalizing entropy with
  | zero => rfl
  | succ count ih =>
    simp only [letters, String.ofList_cons, String.utf8ByteSize_append,
      String.utf8ByteSize_singleton, (letter_allowed entropy).2, ih]
    omega

/-- Random bits always choose a segment. -/
theorem valid_ofEntropy (entropy : Nat) : Valid (ofEntropy entropy) := by
  refine ⟨?_, ?_, ?_⟩
  · simp [ofEntropy, size_letters, randomSize, minSize]
  · simp [ofEntropy, size_letters, randomSize, maxSize]
  · simp only [ofEntropy, String.toList_ofList, letters_allowed]

end Segment

/-- The name of one counter. -/
structure Topic where
  space : String
  key : String
  space_valid : Segment.Valid space
  key_valid : Segment.Valid key
  deriving DecidableEq

/-- Why two texts name no topic. -/
inductive TopicFault where
  | invalidNamespace (message : String)
  | invalidKey (message : String)
  deriving DecidableEq, Repr

/-- The name of a kind of refusal. -/
def TopicFault.kind : TopicFault → String
  | .invalidNamespace _ => "InvalidNamespace"
  | .invalidKey _ => "InvalidKey"

/-- The wording of a refused topic. -/
def TopicFault.message : TopicFault → String
  | .invalidNamespace m => "invalid namespace: " ++ m
  | .invalidKey m => "invalid key: " ++ m

namespace Topic

/-- The namespace of a topic that is given by its key alone. -/
def defaultSpace : String := "default"

/-- The topic with the given namespace and key, without the slashes around them. -/
def ofParts (space key : String) : Except TopicFault Topic :=
  let space := Segment.trimSlashes space
  let key := Segment.trimSlashes key
  match hs : Segment.check space, hk : Segment.check key with
  | .error fault, _ => .error (.invalidNamespace fault.message)
  | .ok _, .error fault => .error (.invalidKey fault.message)
  | .ok _, .ok _ =>
    .ok { space, key
          space_valid := (Segment.check_eq_ok_iff space).mp hs
          key_valid := (Segment.check_eq_ok_iff key).mp hk }

/-- The topic with the given key in the default namespace. -/
def ofKey (key : String) : Except TopicFault Topic :=
  ofParts defaultSpace key

/-- The topic that random bits choose. -/
def random (entropy : Nat) : Topic where
  space := Segment.ofEntropy entropy
  key := Segment.ofEntropy (entropy >>> (6 * Segment.randomSize))
  space_valid := Segment.valid_ofEntropy _
  key_valid := Segment.valid_ofEntropy _

/-- The full name of a topic, `namespace:key`. -/
def name (topic : Topic) : String :=
  topic.space ++ ":" ++ topic.key

instance : ToString Topic := ⟨name⟩

/-- The form of a topic in diagnostics. -/
def debugText (topic : Topic) : String :=
  "Topic(" ++ topic.name ++ ")"

end Topic

end LiveCounter
