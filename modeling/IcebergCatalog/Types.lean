/-
The two pagination tokens of `crates/iceberg-rest-server/src/types.rs`.

A request's `PageToken` has three states, and so does a response's `NextPageToken`. Serde
stands between them and the wire: `serialize_none` and `serialize_str` write an absent value or
a string, and `Deserialize` reads back from `Option<String>`. Both directions are functions
between a token and an `Option String` here, so a round trip is an equation between them.

Each enum documents an invariant on its payload: `Present(s)` only with `s` non-empty, and
`NextToken(s)` only with `s` neither empty nor `"null"`. The smart constructors `new_present`
and `new_next_token` are the code's way of keeping it; `Valid` states it.

The response token does not round-trip in one state. `Finished` is written as the string
`"null"`, and `Deserialize` reads `"null"` back as something else: by its first arm, which
accepts every non-empty string, as `NextToken("null")`; its second arm, meant for `"null"`,
is never reached, and would map it to `NotSupported` anyway.
-/
import Mathlib.Data.String.Basic

set_option autoImplicit false

namespace IcebergCatalog

/-! ## `PageToken` -/

/-- `PageToken`: the page token of a request. -/
inductive PageToken where
  /-- The value is present and not `""`. -/
  | Present (s : String)
  /-- The value is not present. -/
  | NotSpecified
  /-- Specified but empty. -/
  | Empty
  deriving DecidableEq, Repr

/-- `PageToken::new_present`. -/
def PageToken.new_present (s : String) : PageToken :=
  if s.isEmpty then .Empty else .Present s

/-- `impl Deserialize for PageToken`, from the `Option<String>` it reads. -/
def PageToken.deserialize : Option String → PageToken
  | some s => if !s.isEmpty then .Present s else .Empty
  | none => .NotSpecified

/-- `impl Serialize for PageToken`: `none` is `serialize_none`. -/
def PageToken.serialize : PageToken → Option String
  | .Present s => some s
  | .NotSpecified => none
  | .Empty => some ""

/-- The documented invariant of `PageToken`. -/
def PageToken.Valid : PageToken → Prop
  | .Present s => s ≠ ""
  | _ => True

instance : DecidablePred PageToken.Valid := fun t =>
  match t with
  | .Present s => inferInstanceAs (Decidable (s ≠ ""))
  | .NotSpecified => isTrue trivial
  | .Empty => isTrue trivial

/-- **The request token: the constructor is the decoder, and it round-trips.** `new_present`
and `Deserialize` agree on every string, and a token comes back from `Deserialize` after
`Serialize` exactly when it satisfies its invariant. -/
theorem page_token_round_trip (s : String) (t : PageToken) :
    PageToken.new_present s = PageToken.deserialize (some s) ∧
      (PageToken.deserialize t.serialize = t ↔ t.Valid) := by
  refine ⟨by by_cases h : s.isEmpty <;> simp [PageToken.new_present, PageToken.deserialize, h], ?_⟩
  cases t with
  | Present s =>
    by_cases h : s = "" <;>
      simp [PageToken.serialize, PageToken.deserialize, PageToken.Valid, h, String.isEmpty_iff]
  | NotSpecified => decide
  | Empty => decide

/-! ## `NextPageToken` -/

/-- `NextPageToken`: the next-page token of a response. -/
inductive NextPageToken where
  /-- The value is present and not `""` and not `"null"`. -/
  | NextToken (s : String)
  /-- The value is not present. -/
  | Finished
  /-- The server does not support pagination; the field is omitted. -/
  | NotSupported
  deriving DecidableEq, Repr

/-- `NextPageToken::new_next_token`. -/
def NextPageToken.new_next_token (s : String) : NextPageToken :=
  if s.isEmpty then .Finished else if s = "null" then .NotSupported else .NextToken s

/-- `impl Serialize for NextPageToken`. -/
def NextPageToken.serialize : NextPageToken → Option String
  | .NextToken s => some s
  | .Finished => some "null"
  | .NotSupported => none

/-- `impl Deserialize for NextPageToken`, its arms in the source's order. -/
def NextPageToken.deserialize : Option String → NextPageToken
  | some s =>
    if !s.isEmpty then .NextToken s
    else if s = "null" then .NotSupported
    else .Finished
  | none => .NotSupported

/-- The documented invariant of `NextPageToken`. -/
def NextPageToken.Valid : NextPageToken → Prop
  | .NextToken s => s ≠ "" ∧ s ≠ "null"
  | _ => True

instance : DecidablePred NextPageToken.Valid := fun t =>
  match t with
  | .NextToken s => inferInstanceAs (Decidable (s ≠ "" ∧ s ≠ "null"))
  | .Finished => isTrue trivial
  | .NotSupported => isTrue trivial

/-- `Deserialize` on a string: every non-empty string, `"null"` included, is a `NextToken`. -/
theorem NextPageToken.deserialize_some (s : String) :
    NextPageToken.deserialize (some s) = if s = "" then .Finished else .NextToken s := by
  by_cases h : s = "" <;> simp [deserialize, h, String.isEmpty_iff]

/-- **The two decoders of the response token agree off `"null"` only.** `new_next_token` and
`Deserialize` give the same token for every string but `"null"`; the constructor's tokens all
keep the invariant, and the decoder's keep it exactly off `"null"`, which it reads as
`NextToken("null")`. -/
theorem next_page_token_decoders_differ_on_null (s : String) :
    (NextPageToken.deserialize (some s) = NextPageToken.new_next_token s ↔ s ≠ "null") ∧
      (NextPageToken.new_next_token s).Valid ∧
      ((NextPageToken.deserialize (some s)).Valid ↔ s ≠ "null") := by
  rw [NextPageToken.deserialize_some]
  by_cases h : s = ""
  · subst h; decide
  · by_cases hn : s = "null"
    · subst hn; decide
    · simp [NextPageToken.new_next_token, NextPageToken.Valid, String.isEmpty_iff, h, hn]

/-- **The response token round-trips exactly off `Finished`.** A valid token comes back from
`Deserialize` as itself if and only if it is not `Finished`. -/
theorem next_page_token_round_trip (t : NextPageToken) (ht : t.Valid) :
    NextPageToken.deserialize t.serialize = t ↔ t ≠ .Finished := by
  cases t with
  | NextToken s => simp [NextPageToken.serialize, NextPageToken.deserialize_some, ht.1]
  | Finished => simp [NextPageToken.serialize, NextPageToken.deserialize_some]
  | NotSupported => simp [NextPageToken.serialize, NextPageToken.deserialize]

theorem next_page_token_round_trip_next_token :
    (NextPageToken.NextToken "abc").Valid ∧
      (NextPageToken.deserialize (NextPageToken.NextToken "abc").serialize =
        .NextToken "abc" ↔ NextPageToken.NextToken "abc" ≠ .Finished) :=
  ⟨by decide, next_page_token_round_trip (.NextToken "abc") (by decide)⟩

/-- `Finished` satisfies the invariant and does not come back: it is written as `"null"`, and
`"null"` is read as `NextToken("null")`. -/
theorem finished_does_not_round_trip :
    NextPageToken.Finished.Valid ∧
      NextPageToken.deserialize NextPageToken.Finished.serialize = .NextToken "null" ∧
      NextPageToken.deserialize NextPageToken.Finished.serialize ≠ .Finished := by
  decide

end IcebergCatalog
