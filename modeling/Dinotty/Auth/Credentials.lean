/-
This file is what a request shows of credentials, and the comparison of tokens.
-/

import Dinotty.Auth.ClientIp

namespace Dinotty.Auth

open List

/-! ### Comparison -/

def bytes (text : List Char) : List UInt8 := (String.ofList text).toByteArray.data.toList

theorem bytes_injective {first second : List Char} (same : bytes first = bytes second) :
    first = second := by
  have arrays : (String.ofList first).toByteArray = (String.ofList second).toByteArray :=
    ByteArray.ext (Array.toList_inj.mp same)
  exact String.ofList_injective (String.toByteArray_inj.mp arrays)

/-- Compare without an early exit. -/
def constantTimeEq (a b : List Char) : Bool :=
  if (bytes a).length ≠ (bytes b).length then false
  else ((bytes a).zip (bytes b)).foldl (fun difference (x, y) => difference ||| (x ^^^ y)) 0 = 0

theorem foldl_difference_eq_zero (first second : List UInt8)
    (sameLength : first.length = second.length) (start : UInt8) :
    (first.zip second).foldl (fun difference (x, y) => difference ||| (x ^^^ y)) start = 0 ↔
      start = 0 ∧ first = second := by
  induction first generalizing second start with
  | nil =>
    rw [eq_nil_of_length_eq_zero sameLength.symm]
    simp
  | cons x rest ih =>
    cases second with
    | nil => cases sameLength
    | cons y later =>
      rw [zip_cons_cons, foldl_cons, ih later (Nat.succ.inj sameLength),
        UInt8.or_eq_zero_iff, UInt8.xor_eq_zero_iff, List.cons.injEq, and_assoc]

@[simp] theorem constantTimeEq_iff (a b : List Char) : constantTimeEq a b = true ↔ a = b := by
  unfold constantTimeEq
  constructor
  · intro equal
    split at equal
    · cases equal
    next sameLength =>
      rw [decide_eq_true_eq, foldl_difference_eq_zero _ _ (not_not.mp sameLength)] at equal
      exact bytes_injective equal.2
  · rintro rfl
    rw [if_neg (not_not.mpr rfl), decide_eq_true_eq, foldl_difference_eq_zero _ _ rfl]
    exact ⟨rfl, rfl⟩

/-! ### Extraction -/

def stripPrefix (front : String) (text : List Char) : Option (List Char) :=
  front.toList.isPrefixOf? text

theorem stripPrefix_eq_some {front : String} {text rest : List Char} :
    stripPrefix front text = some rest ↔ front.toList ++ rest = text :=
  isPrefixOf?_eq_some_iff_append_eq

def bearerToken (headers : HeaderMap) : Option (List Char) := do
  let value ← headers.get "authorization"
  let text ← toStr value
  let token ← stripPrefix "Bearer " text
  return Chars.trim token

/-- The `token` parameter of a query, as it is written there. -/
def queryToken (query : Option (List Char)) : Option (List Char) :=
  query.bind fun q =>
    (q.splitOn '&').findSome? fun pair => do
      let (key, value) ← Chars.splitOnce '=' pair
      if key = "token".toList then some value else none

def sessionCookieName (port : Nat) : String := s!"dinotty_session_{port}"

def extractSessionCookie (headers : HeaderMap) (port : Nat) : Option (List Char) := do
  let value ← headers.get "cookie"
  let raw ← toStr value
  (raw.splitOn ';').findSome? fun pair =>
    stripPrefix (sessionCookieName port ++ "=") (Chars.trim pair)

/-- Whether the bearer token is the given one. -/
def checkToken (headers : HeaderMap) (token : List Char) : Bool :=
  (bearerToken headers).any fun presented => constantTimeEq presented token

end Dinotty.Auth
