import Hierarchy.Proofs.Json.Integers
import Hierarchy.Proofs.Json.Lists
import Hierarchy.Proofs.Json.Strings
import Hierarchy.Proofs.Region.History

/-!
# Locators and regions are read back from JSON

A locator is written as the list of its tokens, so it is read back if tokens are, in any
layout that JSON allows.  Of a list of locators a region is read, the one that they cover
together, and the list of its own members gives a region back (`survivesJson`).
-/

set_option autoImplicit false

namespace Hierarchy

section Written

variable {α : Type} [Json.Codec α] [Json.LawfulCodec α] {style : Text.Layout}

theorem Locator.reads_writeJson (json : Json.IsJsonLayout style) (depth : Nat) (l : Locator α) :
    Json.Reads Locator.jsonReader (l.writeJson style depth) l := by
  refine (Json.Reads.list json depth ?_).map _
  rw [List.forall₂_map_left_iff, List.forall₂_same]
  intro token _
  exact Json.LawfulCodec.reads token

theorem Locator.reads_writeJsonList (json : Json.IsJsonLayout style) (ls : List (Locator α)) :
    Json.Reads Locator.jsonListReader (Locator.writeJsonList style ls) ls := by
  refine Json.Reads.list json 0 ?_
  rw [List.forall₂_map_left_iff, List.forall₂_same]
  intro l _
  exact l.reads_writeJson json 1

theorem Locator.ofJson_toJson (json : Json.IsJsonLayout style) (l : Locator α) :
    Locator.ofJson (l.toJson style) = .ok l := by
  have read := (l.reads_writeJson json 0).readAll Json.isBlanks_nil
  rwa [List.append_nil, ← String.toList_ofList (l := l.writeJson style 0)] at read

namespace Region

variable [DecidableEq α] [Ord α]

/-- Blanks may follow the list. -/
theorem ofJson_writeJsonList_append (json : Json.IsJsonLayout style) (ls : List (Locator α))
    {after : String} (blanks : Json.IsBlanks after.toList) :
    ofJson (String.ofList (Locator.writeJsonList style ls) ++ after) = .ok (ofList ls) := by
  rw [ofJson, String.toList_append, String.toList_ofList]
  exact ((Locator.reads_writeJsonList json ls).map ofList).readAll blanks

theorem ofJson_writeJsonList (json : Json.IsJsonLayout style) (ls : List (Locator α)) :
    ofJson (String.ofList (Locator.writeJsonList style ls)) = .ok (ofList ls) := by
  have noMore : Json.IsBlanks "".toList := Json.isBlanks_nil
  have read := ofJson_writeJsonList_append json ls noMore
  rwa [String.append_empty] at read

structure SurvivesJson (α : Type) [Json.Codec α] [DecidableEq α] [Ord α]
    (style : Text.Layout) : Prop where
  /-- A list of locators is read as the region that they cover. -/
  collected : ∀ ls : List (Locator α),
    ofJson (String.ofList (Locator.writeJsonList style ls)) = .ok (ofList ls)
  locator : ∀ l : Locator α, Locator.ofJson (l.toJson style) = .ok l
  region : ∀ r : Region α, r.Reachable → ofJson (r.toJson style) = .ok r

theorem survivesJson_of_isJsonLayout [Std.TransOrd α] [Std.LawfulEqOrd α]
    (json : Json.IsJsonLayout style) :
    SurvivesJson α style where
  collected := ofJson_writeJsonList json
  locator := Locator.ofJson_toJson json
  region := by
    intro r reachable
    rw [toJson, ofJson_writeJsonList json, reachable.ofList_toList]

end Region

end Written

namespace Region

/-- Locators and regions survive being written as JSON and read again, on one line or over
several, whatever characters are in their tokens and however large integers they are. -/
theorem survivesJson {style : Text.Layout}
    (offered : style = Json.compact ∨ style = Json.tall) :
    SurvivesJson String style ∧ SurvivesJson Int64 style := by
  have json : Json.IsJsonLayout style := by
    rcases offered with rfl | rfl
    · exact Json.isJsonLayout_compact
    · exact Json.isJsonLayout_tall
  exact ⟨survivesJson_of_isJsonLayout json, survivesJson_of_isJsonLayout json⟩

theorem survivesJson_of_awkward_tokens :
    Locator.writeJsonList Json.compact [⟨["\"\\\x00\x1f\n", ""]⟩, ⟨["\"\\\x00\x1f\n"]⟩] =
        "[[\"\\\"\\\\\\u0000\\u001f\\n\",\"\"],[\"\\\"\\\\\\u0000\\u001f\\n\"]]".toList ∧
      ofJson (String.ofList (Locator.writeJsonList Json.compact
        [⟨["\"\\\x00\x1f\n", ""]⟩, ⟨["\"\\\x00\x1f\n"]⟩])) =
        .ok (⟨#[⟨["\"\\\x00\x1f\n"]⟩]⟩ : Region String) ∧
      Locator.ofJson "[\n  -9223372036854775808,\n  0,\n  9223372036854775807\n]" =
        .ok (⟨[Int64.minValue, 0, Int64.maxValue]⟩ : Locator Int64) := by
  have collected : ofList [⟨["\"\\\x00\x1f\n", ""]⟩, ⟨["\"\\\x00\x1f\n"]⟩] =
      (⟨#[⟨["\"\\\x00\x1f\n"]⟩]⟩ : Region String) := by cbv
  refine ⟨by decide, collected ▸ (survivesJson (Or.inl rfl)).1.collected _, ?_⟩
  have tall := (survivesJson (Or.inr rfl)).2.locator ⟨[Int64.minValue, 0, Int64.maxValue]⟩
  have text : (⟨[Int64.minValue, 0, Int64.maxValue]⟩ : Locator Int64).toJson Json.tall =
      "[\n  -9223372036854775808,\n  0,\n  9223372036854775807\n]" := by cbv
  rwa [text] at tall

end Region

end Hierarchy
