import Mathlib.Data.List.GetD
import LlmGateway.Lib.JsValue

/-!
Token counts of upstream results: the `usage` an upstream reports, on a
buffered completion or on the last stream chunk that carries one, and the
local estimate where a stream carries none. A reported count is whatever JSON
number the upstream sent, or absent.
-/

namespace LlmGateway.Chat

/-- `usage` of an upstream result; a missing or `null` field is `none`. -/
structure CompletionUsage where
  promptTokens : Option ℚ
  completionTokens : Option ℚ
  totalTokens : Option ℚ
  deriving DecidableEq, Repr

structure ChatCompletion where
  id : String
  usage : Option CompletionUsage
  deriving DecidableEq, Repr

structure ChatCompletionChunk where
  /-- `choices[i].delta.content` of every choice. -/
  contents : List (Option String)
  usage : Option CompletionUsage
  deriving DecidableEq, Repr

/-- `Math.max(1, Math.ceil(chars / 4))`. -/
def tokensOfChars (chars : ℕ) : ℕ := max 1 ((chars + 3) / 4)

def completionChars (chunks : List ChatCompletionChunk) : ℕ :=
  ((chunks.flatMap ChatCompletionChunk.contents).map fun content =>
    (content.map Js.utf16Length).getD 0).sum

def promptChars (promptBody : List Js.Json) : ℕ :=
  Js.utf16Length (Js.Json.array promptBody).stringify

structure TokenEstimate where
  promptTokens : ℕ
  completionTokens : ℕ
  totalTokens : ℕ
  deriving DecidableEq, Repr

def estimateTokens (chunks : List ChatCompletionChunk) (promptBody : List Js.Json) :
    TokenEstimate :=
  let completionTokens := tokensOfChars (completionChars chunks)
  let promptTokens := tokensOfChars (promptChars promptBody)
  { promptTokens, completionTokens, totalTokens := promptTokens + completionTokens }

def TokenEstimate.toUsage (estimate : TokenEstimate) : CompletionUsage where
  promptTokens := some estimate.promptTokens
  completionTokens := some estimate.completionTokens
  totalTokens := some estimate.totalTokens

def extractTokens (result : ChatCompletion) : Option CompletionUsage := result.usage

/-- The `usage` of the last chunk that carries one. -/
def lastUsage (chunks : List ChatCompletionChunk) : Option CompletionUsage :=
  (chunks.filterMap ChatCompletionChunk.usage).getLast?

def extractStreamTokens (chunks : List ChatCompletionChunk) (promptBody : List Js.Json) :
    CompletionUsage :=
  (lastUsage chunks).getD (estimateTokens chunks promptBody).toUsage

theorem estimate_prompt_pos (chunks : List ChatCompletionChunk) (promptBody : List Js.Json) :
    0 < (estimateTokens chunks promptBody).promptTokens :=
  lt_of_lt_of_le Nat.one_pos (le_max_left _ _)

end LlmGateway.Chat
