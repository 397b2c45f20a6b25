import LiveCounter.Http.Route
import Mathlib.Data.String.Basic

/-!
# Telling the parts of a path apart

Splitting a text at a character is splitting the list of its characters. With this the route of a
path follows from its parts.
-/

namespace LiveCounter

namespace Text

open String

/-- The loop that splits a text at a character: `l` has been split already, `m` is the part that is
being read, and `r` lies ahead. -/
theorem splitOnAux_of_valid (c : Char) (l m r : List Char) (parts : List String) :
    splitOnAux (ofList (l ++ m ++ r)) (ofList [c]) ⟨utf8Len l⟩ ⟨utf8Len l + utf8Len m⟩ 0 parts =
      parts.reverse ++ (List.splitOnPPrepend (· == c) r m.reverse).map ofList := by
  have hget : Pos.Raw.get (ofList [c]) 0 = c := get_of_valid [] [c]
  have hnext : Pos.Raw.next (ofList [c]) 0 = ⟨c.utf8Size⟩ := by simpa using next_of_valid [] c []
  have hall : Pos.Raw.atEnd (ofList [c]) ⟨c.utf8Size⟩ = true := by
    simpa using (atEnd_of_valid [c] []).mpr rfl
  have hback (i : Nat) : (⟨i + c.utf8Size⟩ : Pos.Raw).unoffsetBy ⟨c.utf8Size⟩ = ⟨i⟩ := by
    simp [Pos.Raw.unoffsetBy]
  induction r generalizing l m parts with
  | nil =>
    have hend : Pos.Raw.atEnd (ofList (l ++ m ++ [])) ⟨utf8Len l + utf8Len m⟩ = true := by
      simpa using (atEnd_of_valid (l ++ m) []).mpr rfl
    rw [splitOnAux, if_pos hend, extract_of_valid l m []]
    simp
  | cons d r ih =>
    have hend : ¬ Pos.Raw.atEnd (ofList (l ++ m ++ d :: r)) ⟨utf8Len l + utf8Len m⟩ = true := by
      simpa using (atEnd_of_valid (l ++ m) (d :: r)).not.mpr (by simp)
    have hd : Pos.Raw.get (ofList (l ++ m ++ d :: r)) ⟨utf8Len l + utf8Len m⟩ = d := by
      simpa using get_of_valid (l ++ m) (d :: r)
    have hlater : Pos.Raw.next (ofList (l ++ m ++ d :: r)) ⟨utf8Len l + utf8Len m⟩ =
        ⟨utf8Len l + utf8Len m + d.utf8Size⟩ := by
      simpa using next_of_valid (l ++ m) d r
    rw [splitOnAux, if_neg hend, hd, hget, hlater, hnext]
    by_cases h : d = c
    · -- The part that was being read ends here.
      subst h
      have hrest := ih (l ++ m ++ [d]) [] (ofList m :: parts)
      rw [if_pos (by simp), if_pos hall, hback, extract_of_valid l m (d :: r)]
      simpa [-ofList_append, -ofList_cons, List.splitOnPPrepend_cons_eq_if, Nat.add_assoc] using hrest
    · have hrest := ih l (m ++ [d]) parts
      have hstay : (⟨utf8Len l + utf8Len m⟩ : Pos.Raw).unoffsetBy 0 = ⟨utf8Len l + utf8Len m⟩ := by
        simp [Pos.Raw.unoffsetBy]
      rw [if_neg (by simpa using h), hstay, hlater]
      simpa [-ofList_append, -ofList_cons, List.splitOnPPrepend_cons_eq_if, Nat.add_assoc, h]
        using hrest

/-- A text is split at a character as the list of its characters is. -/
theorem splitOn_of_valid (text : String) (c : Char) :
    text.splitOn (ofList [c]) = (text.toList.splitOn c).map ofList := by
  have hne : ¬ (ofList [c] == "") = true := by simp
  rw [splitOn, if_neg hne]
  simpa [List.splitOn] using splitOnAux_of_valid c [] [] text.toList []

end Text

namespace Http

/-- A verb and a key without a slash lead to the endpoint of the verb, about the key in the default
namespace. -/
theorem Route.ofPath?_verb_key {path verb key : String} (hpath : path = "/" ++ verb ++ "/" ++ key)
    (hverb : '/' ∉ verb.toList) (hkey : '/' ∉ key.toList) (hne : key ≠ "") :
    Route.ofPath? path =
      (Endpoint.ofVerb? verb).map fun endpoint => ⟨endpoint, some ⟨none, key⟩⟩ := by
  have hlist : path.toList = [] ++ '/' :: (verb.toList ++ '/' :: key.toList) := by simp [hpath]
  have hparts : path.splitOn "/" = ["", verb, key] := by
    refine (Text.splitOn_of_valid path '/').trans ?_
    rw [hlist, List.splitOn_append_cons_self_of_not_mem (by simp),
      List.splitOn_append_cons_self_of_not_mem hverb, List.splitOn_eq_singleton hkey]
    simp
  have hempty : key.isEmpty = false := by simpa using hne
  rw [Route.ofPath?, hparts]
  split <;> simp_all

end Http

end LiveCounter
