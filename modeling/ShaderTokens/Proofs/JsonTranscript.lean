import ShaderTokens.CommandLine.Report
import ShaderTokens.Proofs.JsonRoundTrip
import ShaderTokens.Proofs.PlainWords
import ShaderTokens.Proofs.Tiling

/-!
# Token lists as JSON

A list of tokens in JSON is plain ASCII, one object on each line, and nothing of a token is lost in
it: its text, category, offsets and place can be read back from its line.
-/

namespace ShaderTokens

open Text

/-! ## Tokens -/

namespace Token

def toJson (token : Token) : JsonObject :=
  [("text", .string token.text),
    ("category", .string token.category.name),
    ("start", .integer token.startOffset),
    ("end", .integer token.endOffset),
    ("line", .integer token.line),
    ("column", .integer token.column)]

def ofJson? (object : JsonObject) : Option Token := do
  return {
    text := ← object.string? "text"
    category := ← Category.ofName? (← object.string? "category")
    startOffset := ← object.integer? "start"
    endOffset := ← object.integer? "end"
    line := ← object.integer? "line"
    column := ← object.integer? "column" }

private theorem ofJson?_toJson (token : Token) : ofJson? token.toJson = some token := by
  have hname : Category.ofName? token.category.name = some token.category := by
    cases token.category <;> rfl
  simp [ofJson?, toJson, JsonObject.string?, JsonObject.integer?, List.lookup_cons, hname]

private theorem mapM_ofJson?_toJson (tokens : List Token) :
    (tokens.map toJson).mapM ofJson? = some tokens := by
  induction tokens with
  | nil => rfl
  | cons token tokens ih =>
      rw [List.map_cons, List.mapM_cons, ofJson?_toJson, ih]
      rfl

private theorem filterMap_text_toJson (tokens : List Token) :
    (tokens.map toJson).filterMap (·.string? "text") = tokens.map Token.text := by
  induction tokens with
  | nil => rfl
  | cons token tokens ih =>
      rw [List.map_cons, List.map_cons, ← ih]
      rfl

private theorem toList_jsonLine (token : Token) : token.jsonLine.toList = token.toJson.write := by
  simp only [jsonLine, toJson, JsonObject.write, JsonObject.writeMember, JsonValue.write,
    String.toList_append, String.toList_intercalate, List.map_cons, List.map_nil,
    String.toList_ofList]
  rfl

end Token

/-- ASCII text with one object on each line, from which the tokens can be read back. -/
structure IsJsonTranscript (output : String) (tokens : List Token) : Prop where
  ascii : ∀ char ∈ output.toList, char.toNat < 128
  objects : JsonObject.readLines output.toList = some (tokens.map Token.toJson)
  decodes : ((JsonObject.readLines output.toList).bind fun objects =>
    objects.mapM Token.ofJson?) = some tokens

namespace CommandLine.Settings

variable {settings : Settings} {lexicon : Lexicon}

private theorem isJsonTranscript_tokenLines (hjson : settings.json = true) (tokens : List Token) :
    IsJsonTranscript (settings.tokenLines tokens) tokens := by
  have hwritten : (settings.tokenLines tokens).toList =
      (tokens.map Token.toJson).flatMap fun object => object.write ++ ['\n'] := by
    rw [tokenLines, String.toList_join, List.flatMap_map, List.flatMap_map]
    refine List.flatMap_congr fun token _ => ?_
    rw [Token.listing, if_pos hjson, String.toList_append, token.toList_jsonLine]
    rfl
  have hobjects : JsonObject.readLines (settings.tokenLines tokens).toList =
      some (tokens.map Token.toJson) := by
    rw [hwritten, JsonObject.readLines_write]
  refine ⟨fun char hmem => ?_, hobjects, ?_⟩
  · rw [hwritten] at hmem
    obtain ⟨object, -, hmem⟩ := List.mem_flatMap.mp hmem
    obtain hmem | hmem := List.mem_append.mp hmem
    · have hprintable := JsonObject.isPrintable_write object char hmem
      exact Nat.lt_trans hprintable.2 (by decide)
    · obtain rfl := List.mem_singleton.mp hmem
      decide
  · rw [hobjects]
    exact Token.mapM_ofJson?_toJson tokens

/-- A listing in JSON loses nothing: the tokens that it lists can be read back from it.  These are
all tokens if white space is included, and then their texts make up the source. -/
theorem isJsonTranscript_report (hlexicon : Lexicon.ofOptions settings.options = .ok lexicon)
    (hjson : settings.json = true) (hclassified : settings.classified = [])
    (source filename : String) :
    ∃ outcome, settings.report source filename = .ok outcome ∧
      (settings.whitespace = true →
        IsJsonTranscript outcome.output (TokenStream.mk lexicon source filename).allTokens ∧
          ∃ objects, JsonObject.readLines outcome.output.toList = some objects ∧
            String.join (objects.filterMap (·.string? "text")) = source) ∧
      (settings.whitespace = false →
        IsJsonTranscript outcome.output
          ((TokenStream.mk lexicon source filename).allTokens.filter fun token =>
            token.category ≠ .whitespace)) := by
  let stream : TokenStream := ⟨lexicon, source, filename⟩
  have hreport := report_eq_ok hlexicon source filename
  have houtput : (settings.reportWith lexicon source filename).output =
      settings.tokenLines (stream.tokens settings.whitespace) := by
    rw [reportWith, hclassified]
    rfl
  have htranscript := isJsonTranscript_tokenLines hjson (stream.tokens settings.whitespace)
  rw [← houtput] at htranscript
  refine ⟨_, hreport, fun hall => ?_, fun hsome => ?_⟩
  · have htokens : stream.tokens settings.whitespace = stream.allTokens := by
      simp [TokenStream.tokens, hall]
    rw [htokens] at htranscript
    refine ⟨htranscript, _, htranscript.objects, ?_⟩
    rw [Token.filterMap_text_toJson]
    exact (tiles_allTokens stream).covers
  · have htokens : stream.tokens settings.whitespace =
        stream.allTokens.filter fun token => token.category ≠ .whitespace := by
      simp [TokenStream.tokens, hsome, Token.isWhitespace]
    rwa [htokens] at htranscript

theorem isJsonTranscript_report_astral :
    ∃ outcome,
      report { json := true, whitespace := true } "\"😀\"\n" "sky.hlsl" = .ok outcome ∧
      IsJsonTranscript outcome.output
        (TokenStream.mk .standard "\"😀\"\n" "sky.hlsl").allTokens := by
  let settings : Settings := { json := true, whitespace := true }
  have hlexicon : Lexicon.ofOptions settings.options = .ok .standard := Lexicon.ofOptions_empty
  obtain ⟨outcome, hreport, htranscript, -⟩ :=
    isJsonTranscript_report hlexicon rfl rfl "\"😀\"\n" "sky.hlsl"
  exact ⟨outcome, hreport, (htranscript rfl).1⟩

end CommandLine.Settings

end ShaderTokens
