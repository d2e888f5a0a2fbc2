import Acceptance.Step.Definition

/-!
# Dialects

The words that open the parts of a feature in each spoken language.  A step keyword ends with a
blank where the language writes one.
-/

namespace Acceptance.Gherkin

structure Dialect where
  name : String
  feature : List String
  rule : List String
  background : List String
  scenario : List String
  scenarioOutline : List String
  examples : List String
  given : List String
  action : List String
  outcome : List String
  conjunction : List String
  contrast : List String
  deriving Repr

namespace Dialect

def english : Dialect where
  name := "en"
  feature := ["Feature", "Business Need", "Ability"]
  rule := ["Rule"]
  background := ["Background"]
  scenario := ["Example", "Scenario"]
  scenarioOutline := ["Scenario Outline", "Scenario Template"]
  examples := ["Examples", "Scenarios"]
  given := ["* ", "Given "]
  action := ["* ", "When "]
  outcome := ["* ", "Then "]
  conjunction := ["* ", "And "]
  contrast := ["* ", "But "]

def french : Dialect where
  name := "fr"
  feature := ["Fonctionnalité"]
  rule := ["Règle"]
  background := ["Contexte"]
  scenario := ["Exemple", "Scénario"]
  scenarioOutline := ["Plan du scénario", "Plan du Scénario"]
  examples := ["Exemples"]
  given := ["* ", "Soit ", "Sachant que ", "Sachant qu'", "Sachant ", "Etant donné que ",
    "Etant donné qu'", "Etant donné ", "Etant donnée ", "Etant donnés ", "Etant données ",
    "Étant donné que ", "Étant donné qu'", "Étant donné ", "Étant donnée ", "Étant donnés ",
    "Étant données "]
  action := ["* ", "Quand ", "Lorsque ", "Lorsqu'"]
  outcome := ["* ", "Alors ", "Donc "]
  conjunction := ["* ", "Et que ", "Et qu'", "Et "]
  contrast := ["* ", "Mais que ", "Mais qu'", "Mais "]

def german : Dialect where
  name := "de"
  feature := ["Funktionalität", "Funktion"]
  rule := ["Rule", "Regel"]
  background := ["Grundlage", "Hintergrund", "Voraussetzungen", "Vorbedingungen"]
  scenario := ["Beispiel", "Szenario"]
  scenarioOutline := ["Szenariogrundriss", "Szenarien"]
  examples := ["Beispiele"]
  given := ["* ", "Angenommen ", "Gegeben sei ", "Gegeben seien "]
  action := ["* ", "Wenn "]
  outcome := ["* ", "Dann "]
  conjunction := ["* ", "Und "]
  contrast := ["* ", "Aber "]

def russian : Dialect where
  name := "ru"
  feature := ["Функция", "Функциональность", "Функционал", "Свойство", "Фича"]
  rule := ["Правило"]
  background := ["Предыстория", "Контекст"]
  scenario := ["Пример", "Сценарий"]
  scenarioOutline := ["Структура сценария", "Шаблон сценария"]
  examples := ["Примеры", "Значения"]
  given := ["* ", "Допустим ", "Дано ", "Пусть "]
  action := ["* ", "Когда ", "Если "]
  outcome := ["* ", "То ", "Затем ", "Тогда "]
  conjunction := ["* ", "И ", "К тому же ", "Также "]
  contrast := ["* ", "Но ", "А ", "Иначе "]

def japanese : Dialect where
  name := "ja"
  feature := ["フィーチャ", "機能"]
  rule := ["ルール"]
  background := ["背景"]
  scenario := ["シナリオ"]
  scenarioOutline := ["シナリオアウトライン", "シナリオテンプレート", "テンプレ", "シナリオテンプレ"]
  examples := ["例", "サンプル"]
  given := ["* ", "前提"]
  action := ["* ", "もし"]
  outcome := ["* ", "ならば"]
  conjunction := ["* ", "且つ", "かつ"]
  contrast := ["* ", "然し", "しかし", "但し", "ただし"]

def chinese : Dialect where
  name := "zh-CN"
  feature := ["功能"]
  rule := ["Rule", "规则"]
  background := ["背景"]
  scenario := ["场景", "剧本"]
  scenarioOutline := ["场景大纲", "剧本大纲"]
  examples := ["例子"]
  given := ["* ", "假如", "假设", "假定"]
  action := ["* ", "当"]
  outcome := ["* ", "那么"]
  conjunction := ["* ", "而且", "并且", "同时"]
  contrast := ["* ", "但是"]

def pirate : Dialect where
  name := "en-pirate"
  feature := ["Ahoy matey!"]
  rule := ["Rule"]
  background := ["Yo-ho-ho"]
  scenario := ["Heave to"]
  scenarioOutline := ["Shiver me timbers"]
  examples := ["Dead men tell no tales"]
  given := ["* ", "Gangway! "]
  action := ["* ", "Blimey! "]
  outcome := ["* ", "Let go and haul "]
  conjunction := ["* ", "Aye "]
  contrast := ["* ", "Avast! "]

def emoji : Dialect where
  name := "em"
  feature := ["📚"]
  rule := ["Rule"]
  background := ["💤"]
  scenario := ["🥒", "📕"]
  scenarioOutline := ["📖"]
  examples := ["📓"]
  given := ["* ", "😐"]
  action := ["* ", "🎬"]
  outcome := ["* ", "🙏"]
  conjunction := ["* ", "😂"]
  contrast := ["* ", "😔"]

/-- The known dialects. -/
def all : List Dialect := [english, french, german, russian, japanese, chinese, pirate, emoji]

def ofName? (name : String) : Option Dialect := all.find? fun d => d.name == name

/-- Every step keyword, one that serves several purposes as often as it does. -/
def stepKeywords (d : Dialect) : List String :=
  d.given ++ d.action ++ d.outcome ++ d.conjunction ++ d.contrast

/-- Puts a keyword in front of the first one that is not longer. -/
def insertByLength (keyword : String) : List String → List String
  | [] => [keyword]
  | k :: ks =>
    if k.length ≤ keyword.length then keyword :: k :: ks else k :: insertByLength keyword ks

/-- The step keywords, longer ones first. -/
def stepKeywordsByLength (d : Dialect) : List String := d.stepKeywords.foldr insertByLength []

end Dialect

end Acceptance.Gherkin
