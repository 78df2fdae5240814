import Mathlib.Data.String.Basic
import SyntheticMarket.Proofs.Server.Course
import SyntheticMarket.Proofs.Server.Windows
import SyntheticMarket.Proofs.Text.Uppercase

/-! The symbols that a search tells. They are the first that fit, in the order of their code points. A
symbol fits every part of itself: upper case keeps a part a part, and so does dropping the blanks at
its ends. -/

namespace SyntheticMarket

namespace Catalog

variable {needle letters : List Char} {symbols : List String} {part symbol : String}

theorem occurs_iff : occurs needle letters = true ↔ needle <:+: letters := by
  induction letters with
  | nil => rw [occurs, List.isEmpty_iff, List.infix_nil]
  | cons letter rest ih =>
    rw [occurs, Bool.or_eq_true, List.isPrefixOf_iff_prefix, ih, List.infix_cons_iff]

/-- The upper case of the symbol has the upper case of the text in it, less the blanks around the
text. -/
def Fits (text symbol : String) : Prop :=
  (Text.upper (Text.strip text)).toList <:+: (Text.upper symbol).toList

theorem found_iff {text : String} : found text symbol = true ↔ Fits text symbol := occurs_iff

theorem fits_part (within : part.toList <:+: symbol.toList) : Fits part symbol :=
  Text.upper_infix ((Text.strip_infix part).trans within)

theorem fits_upper_part (within : part.toList <:+: symbol.toList) :
    Fits (Text.upper part) symbol := by
  have kept := Text.upper_infix (Text.strip_infix (Text.upper part))
  rw [Text.upper_upper] at kept
  exact kept.trans (Text.upper_infix within)

def codes (symbol : String) : List Nat := symbol.toList.map Char.toNat

theorem codes_lt {left right : String} (less : left < right) : codes left < codes right :=
  List.map_lt (fun _ _ less => less) (String.lt_iff_toList_lt.mp less)

def fitting (symbols : List String) (text : String) : List String :=
  (symbols.mergeSort fun left right => !(right < left)).filter (found text)

theorem mem_fitting {text : String} :
    symbol ∈ fitting symbols text ↔ symbol ∈ symbols ∧ Fits text symbol := by
  rw [fitting, List.mem_filter, List.mem_mergeSort, found_iff]

theorem fitting_ascending (distinct : symbols.Nodup) (text : String) :
    (fitting symbols text).Pairwise (· < ·) := by
  have sorted : (symbols.mergeSort fun left right => !(right < left)).Pairwise
      fun left right => !(right < left) := by
    refine List.pairwise_mergeSort ?_ ?_ symbols
    · intro left middle right
      simp only [Bool.not_eq_true', decide_eq_false_iff_not, not_lt]
      exact le_trans
    · intro left right
      simp only [Bool.or_eq_true, Bool.not_eq_true', decide_eq_false_iff_not, not_lt]
      exact le_total left right
  have apart : (symbols.mergeSort fun left right => !(right < left)).Nodup :=
    (List.mergeSort_perm symbols _).nodup_iff.mpr distinct
  refine List.Pairwise.filter _ ((sorted.and apart).imp ?_)
  rintro left right ⟨notAfter, different⟩
  rw [Bool.not_eq_true', decide_eq_false_iff_not, not_lt] at notAfter
  exact lt_of_le_of_ne notAfter different

/-- The first `limit` of the symbols that fit, in the order of their code points. -/
structure Selects (symbols : List String) (text : String) (limit : Nat) (hits : List String) :
    Prop where
  ascending : hits.Pairwise fun left right => codes left < codes right
  distinct : hits.Nodup
  sound : ∀ hit ∈ hits, hit ∈ symbols ∧ Fits text hit
  bounded : hits.length ≤ limit
  complete : ∀ symbol ∈ symbols, Fits text symbol → symbol ∉ hits →
    hits.length = limit ∧ ∀ hit ∈ hits, codes hit < codes symbol

theorem search_selects (distinct : symbols.Nodup) (text : String) (limit : Nat) :
    Selects symbols text limit (search symbols text limit) := by
  have ascending := fitting_ascending distinct text
  have split := List.take_append_drop limit (fitting symbols text)
  rw [← split] at ascending
  obtain ⟨front, -, across⟩ := List.pairwise_append.mp ascending
  have same : search symbols text limit = (fitting symbols text).take limit := rfl
  rw [same]
  refine ⟨front.imp codes_lt, front.imp ne_of_lt, ?_, List.length_take_le .., ?_⟩
  · intro hit told
    exact mem_fitting.mp (List.mem_of_mem_take told)
  · intro symbol known fits missed
    have left : symbol ∈ (fitting symbols text).drop limit := by
      have member := mem_fitting.mpr ⟨known, fits⟩
      rw [← split, List.mem_append] at member
      exact member.resolve_left missed
    refine ⟨?_, fun hit told => codes_lt (across hit told symbol left)⟩
    have more : 0 < ((fitting symbols text).drop limit).length := List.length_pos_of_mem left
    rw [List.length_drop] at more
    rw [List.length_take]
    omega

theorem search_prefix (symbols : List String) (text : String) {small large : Nat}
    (within : small ≤ large) : search symbols text small <+: search symbols text large :=
  List.take_prefix_take_left within

theorem mem_search_of_fits {text : String} {limit : Nat} (known : symbol ∈ symbols)
    (fits : Fits text symbol) (enough : symbols.length ≤ limit) :
    symbol ∈ search symbols text limit := by
  have all : (fitting symbols text).length ≤ limit := by
    refine (List.length_filter_le _ _).trans ?_
    rwa [List.length_mergeSort]
  have same : search symbols text limit = fitting symbols text := List.take_of_length_le all
  rw [same]
  exact mem_fitting.mpr ⟨known, fits⟩

end Catalog

structure Request.Searches (request : Request) (text : String) (limit : Nat) : Prop where
  method_eq : request.method = .get
  path_eq : request.path = "/udf/search"
  text_eq : (request.param? "query").getD "" = text
  limit_eq : ∃ count, request.count? "limit" = .done count ∧
    (count.getD Server.searchCount).toNat = limit

namespace Server

variable {server : Server} {request : Request} {text : String} {limit : Nat}

def tellHits (hits : List String) : Response := .ok (.list (hits.map searchHit))

/-- The symbols can be read off the response under each name that it has for them. -/
theorem column_tellHits (hits : List String) :
    ∀ name ∈ ["symbol", "full_name", "ticker"],
      (tellHits hits).json?.bind (Json.column? name) = some hits := by
  intro name named
  have reads (symbol : String) : ((searchHit symbol).field? name).bind Json.text? = some symbol := by
    simp only [List.mem_cons, List.not_mem_nil, or_false] at named
    obtain rfl | rfl | rfl := named <;> rfl
  exact (Json.mapM_read reads hits).trans (congrArg some (List.map_id' hits))

theorem answer_search (server : Server) (searches : request.Searches text limit) :
    server.answer request =
      (tellHits (Catalog.search server.registry.symbols text limit), server) := by
  have resolved : Route.resolve "/udf/search" .get = .found .chartSearch := by decide
  obtain ⟨count, read, limit_eq⟩ := searches.limit_eq
  rw [answer, searches.path_eq, searches.method_eq, resolved]
  dsimp only
  rw [chartSearch, read]
  dsimp only
  rw [searches.text_eq, limit_eq]
  rfl

theorem Reached.symbols_nodup (reached : Reached server) : server.registry.symbols.Nodup :=
  reached.sound.tidy.distinct

/-- A search tells the first of the symbols that fit, as many as are asked for, and each under every
name that clients read it by; who asks for fewer gets the beginning of the same answer; and who asks
for enough finds each symbol by any part of it, as it stands or in upper case. -/
theorem search_complete (server : Server) (distinct : server.registry.symbols.Nodup) :
    let symbols := server.registry.symbols
    (∀ (request : Request) (text : String) (limit : Nat), request.Searches text limit →
      server.answer request = (tellHits (Catalog.search symbols text limit), server) ∧
      ∀ name ∈ ["symbol", "full_name", "ticker"],
        (server.answer request).1.json?.bind (Json.column? name) =
          some (Catalog.search symbols text limit)) ∧
      (∀ text limit, Catalog.Selects symbols text limit (Catalog.search symbols text limit)) ∧
      (∀ (text : String) (small large : Nat), small ≤ large →
        Catalog.search symbols text small <+: Catalog.search symbols text large) ∧
      ∀ symbol ∈ symbols, ∀ part : String, part.toList <:+: symbol.toList →
        ∀ limit, symbols.length ≤ limit →
          symbol ∈ Catalog.search symbols part limit ∧
          symbol ∈ Catalog.search symbols (Text.upper part) limit := by
  intro symbols
  refine ⟨?_, Catalog.search_selects distinct, ?_, ?_⟩
  · intro request text limit searches
    have answered := server.answer_search searches
    refine ⟨answered, ?_⟩
    rw [answered]
    exact column_tellHits _
  · intro text small large within
    exact Catalog.search_prefix symbols text within
  · intro symbol known part within limit enough
    exact ⟨Catalog.mem_search_of_fits known (Catalog.fits_part within) enough,
      Catalog.mem_search_of_fits known (Catalog.fits_upper_part within) enough⟩

/-- Three symbols, in one of them a letter whose upper case is two letters. -/
def streets : Settings :=
  { symbols := ["BTC/USDT", "Essen/USD", "straße/eur"], historyLength := 1 }

/-- A search for that letter, with blanks around it, that wants one symbol. -/
def sharp : Request where
  method := .get
  path := "/udf/search"
  query := [("query", " ß "), ("limit", "1")]
  body := ""

/-- The letter also finds a symbol that only has its upper case. -/
theorem streets_found :
    ∃ server, boot streets 1700000000000 = .ok server ∧ server.registry.symbols.Nodup ∧
      sharp.Searches " ß " 1 ∧ server.answer sharp = (tellHits ["Essen/USD"], server) ∧
      (server.answer sharp).1.json?.bind (Json.column? "symbol") = some ["Essen/USD"] ∧
      Catalog.Selects server.registry.symbols " ß " 1 ["Essen/USD"] ∧
      ["Essen/USD"] <+: Catalog.search server.registry.symbols " ß " 3 ∧
      "straße/eur" ∈ Catalog.search server.registry.symbols "ße" 3 ∧
      "straße/eur" ∈ Catalog.search server.registry.symbols "SSE" 3 := by
  have searches : sharp.Searches " ß " 1 :=
    ⟨rfl, rfl, by decide, some 1, by decide, rfl⟩
  have within : "ße".toList <:+: "straße/eur".toList := by decide
  have upper : Text.upper "ße" = "SSE" := by decide +kernel
  have first : Catalog.search streets.symbols " ß " 1 = ["Essen/USD"] := by
    rw [Catalog.search, List.mergeSort_of_pairwise (by decide)]
    decide +kernel
  have held : (match boot streets 1700000000000 with
      | .error _ => none
      | .ok server => some server.registry.symbols) = some streets.symbols := by decide +kernel
  cases booted : boot streets 1700000000000 with
  | error misfit =>
    rw [booted] at held
    cases held
  | ok server =>
    rw [booted] at held
    have symbols : server.registry.symbols = streets.symbols := Option.some.inj held
    have distinct := (Reached.booted booted).symbols_nodup
    obtain ⟨answered, selects, begins, finds⟩ := search_complete server distinct
    obtain ⟨plain, loud⟩ := finds "straße/eur" (by rw [symbols]; decide) "ße" within 3
      (by rw [symbols]; decide)
    rw [upper] at loud
    have told := symbols ▸ first
    obtain ⟨response, columns⟩ := answered sharp " ß " 1 searches
    refine ⟨server, rfl, distinct, searches, ?_, ?_, ?_, ?_, plain, loud⟩
    · rw [response, told]
    · exact told ▸ columns "symbol" List.mem_cons_self
    · exact told ▸ selects " ß " 1
    · exact told ▸ begins " ß " 1 3 (by decide)

end Server

end SyntheticMarket
