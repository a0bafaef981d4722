import SurveyDispatch.Location.Address
import SurveyDispatch.Proofs.Document.Sequences
import SurveyDispatch.Proofs.Text.FormEncoding

/-!
# Queries are read back

A query is read by splitting it at its ampersands, each part at its first equals sign, and decoding
both sides (`FormEncoding.readPairs?`).  Neither sign is in an encoding, so the pairs of a query are
read back whatever their texts hold (`Address.readPairs?_write`).  So nothing in an address, in the
settings or in a token can add a parameter to the query for the address, or change another one
(`Address.featureQuery_parameters`).
-/

namespace SurveyDispatch

namespace FormEncoding

/-! ## Reading queries -/

/-- The text that an encoded text stands for. -/
def decodeText? (encoded : List Char) : Option String := Utf8.decode (decode encoded)

/-- The name in front of the first equals sign and the value behind it. -/
def readPair? (part : List Char) : Option (String × String) := do
  let name ← decodeText? (part.takeWhile (· != '='))
  let value ← decodeText? ((part.dropWhile (· != '=')).drop 1)
  return (name, value)

/-- The names and values of a query. -/
def readPairs? (query : String) : Option (List (String × String)) :=
  (query.toList.splitOn '&').mapM readPair?

/-- An encoded text is decoded as itself. -/
theorem decodeText?_encode (s : String) : decodeText? (encode keptInQuery s) = some s := by
  rw [decodeText?, decode_encode plain_keptInQuery, Utf8.decode_encode]

/-- No encoded text has an equals sign in it. -/
theorem equals_not_mem (s : String) : '=' ∉ encode keptInQuery s :=
  not_mem_encode (by decide) (by decide) (by decide) (by decide) s

/-- No encoded text has an ampersand in it. -/
theorem ampersand_not_mem (s : String) : '&' ∉ encode keptInQuery s :=
  not_mem_encode (by decide) (by decide) (by decide) (by decide) s

end FormEncoding

namespace Address

open FormEncoding (encode keptInQuery readPair? readPairs?)

/-! ## Reading what is written -/

/-- A written pair is read back. -/
theorem readPair?_queryPair (pair : String × String) : readPair? (queryPair pair) = some pair := by
  have free : ∀ c ∈ encode keptInQuery pair.1, (c != '=') = true := by
    intro c mem
    rw [bne_iff_ne]
    rintro rfl
    exact FormEncoding.equals_not_mem pair.1 mem
  have name : (queryPair pair).takeWhile (· != '=') = encode keptInQuery pair.1 := by
    rw [queryPair, List.takeWhile_append_of_pos free]
    simp
  have value : ((queryPair pair).dropWhile (· != '=')).drop 1 = encode keptInQuery pair.2 := by
    rw [queryPair, List.dropWhile_append_of_pos free]
    simp
  rw [readPair?, name, value]
  simp [FormEncoding.decodeText?_encode]

theorem ampersand_not_mem_queryPair (pair : String × String) : '&' ∉ queryPair pair := by
  simp [queryPair, FormEncoding.ampersand_not_mem]

/-- Pairs are read back, if there are any. -/
theorem readPairs?_write {pairs : List (String × String)} (nonempty : pairs ≠ []) :
    readPairs? (.ofList (['&'].intercalate (pairs.map queryPair))) = some pairs := by
  have free : ∀ part ∈ pairs.map queryPair, '&' ∉ part := by
    intro part mem
    obtain ⟨pair, -, rfl⟩ := List.mem_map.mp mem
    exact ampersand_not_mem_queryPair pair
  have behind : pairs.map queryPair ≠ [] := mt List.map_eq_nil_iff.mp nonempty
  rw [readPairs?, String.toList_ofList, List.splitOn_intercalate '&' free behind, List.mapM_map]
  have read : ∀ pair ∈ pairs, (readPair? ∘ queryPair) pair = some (id pair) :=
    fun pair _ => readPair?_queryPair pair
  rw [Document.mapM_some read, List.map_id]

/-- The query for an address has four parameters, and each of them has its own value, for all
addresses, settings and tokens. -/
theorem featureQuery_parameters (s : LocationSettings) (token : String) (a : Address) :
    readPairs? (a.featureQuery s token) =
      some [("where", a.whereClause s), ("outFields", ",".intercalate s.outFields), ("f", "json"),
        ("token", token)] :=
  readPairs?_write (List.cons_ne_nil _ _)

end Address

end SurveyDispatch
