import GodotAtlas.Script.Terminal
import GodotAtlas.Script.Tree

namespace GodotAtlas.Script

inductive Symbol where
  | statement | simple | moreSimple | body
  | rightSide | expression | primary | operand | behindWhole | behindOperand
deriving DecidableEq, Repr

inductive Action where
  | «open»
  | adopt
  | close (kind : Kind)
  | label (field : Field)
  | require (kinds : List Kind)
deriving DecidableEq, Repr

inductive Rule where
  | token (t : Terminal) (kind : Option Kind)
  | act (a : Action)
  | seq (rs : List Rule)
  | alt (rs : List Rule)
  | opt (r : Rule)
  | many (r : Rule)
  -- What may stand behind an item of a list: nothing, or the separator and either nothing or a
  -- further item.
  | more (separator : Terminal) (item : Rule)
  | ref (s : Symbol)

namespace Grammar

open Rule Script.Action Script.Symbol

def key (k : Keyword) : Rule :=
  token (.keyword k) none

def mark (m : Mark) : Rule :=
  token (.mark m) none

def node (kind : Kind) (rs : List Rule) : Rule :=
  seq (act .open :: rs ++ [act (close kind)])

def list (item : Rule) : Rule :=
  seq [item, more (.mark .comma) item]

def identifier : Rule :=
  token .name (some .identifier)

def declaredName : Rule :=
  seq [token .name (some .name), act (label .name)]

def arguments : Rule :=
  node (.other "arguments")
    [mark .parenOpen, opt (list (ref rightSide)), mark .parenClose]

def oneAnnotationRule : Rule :=
  node .annotates [mark .at, identifier, opt arguments]

def annotations : Rule :=
  node .annotations [oneAnnotationRule, many oneAnnotationRule]

def patternBinding : Rule :=
  node (.other "pattern_binding") [key .var, identifier]

def openEnd : Rule :=
  opt (node (.other "pattern_open_ending") [mark .dots])

def array : Rule :=
  node (.other "array")
    [mark .bracketOpen, opt (list (alt [patternBinding, ref rightSide])), openEnd,
     mark .bracketClose]

def pair : Rule :=
  node (.other "pair")
    [ref rightSide, alt [mark .colon, seq [act (require [.identifier]), mark .eq]],
     alt [patternBinding, ref rightSide]]

def dictionary : Rule :=
  node (.other "dictionary")
    [mark .braceOpen, opt (list pair), openEnd, mark .braceClose]

def atom : Rule :=
  alt [identifier, token .integer (some .integer), token .float (some (.other "float")),
    token .string (some .string),
    node (.other "string_name") [mark .amp, token .string (some .string)],
    token .nodePath (some (.other "node_path")),
    token .nodeReference (some (.other "get_node")),
    token (.keyword .true) (some (.other "true")), token (.keyword .false) (some (.other "false")),
    token (.keyword .null) (some (.other "null")),
    node (.other "base_call") [mark .dot, identifier, arguments],
    array, dictionary,
    node .parenthesized [mark .parenOpen, ref rightSide, mark .parenClose]]

-- A member behind what it belongs to. What stands in brackets directly behind its name belongs to
-- the member.
def member : Rule :=
  seq [act adopt, mark .dot, identifier,
    opt (alt [arguments, seq [mark .bracketOpen, ref primary, mark .bracketClose]]),
    act (close .attribute)]

def call : Rule :=
  seq [act adopt, arguments, act (close .call)]

def subscript : Rule :=
  seq [act adopt, mark .bracketOpen, ref expression, mark .bracketClose, act (close .subscript)]

def unaryOperator : Rule :=
  alt [key .not, mark .bang, mark .minus, mark .plus, mark .tilde]

def binaryOperator : Rule :=
  alt ([key .and, key .or, key .in, seq [key .is, opt (key .not)], key .as] ++
    ([.ampAmp, .barBar, .plus, .minus, .star, .slash, .power, .percent, .shiftLeft, .shiftRight,
      .amp, .bar, .caret, .eqEq, .bangEq, .less, .greater, .lessEq, .greaterEq] : List Mark).map
      mark)

def type : Rule :=
  node .type [ref primary, act (require [.identifier, .attribute, .subscript])]

def base : Rule :=
  seq [ref primary, act (require [.string, .identifier, .attribute, .subscript])]

def parameter : Rule :=
  seq [identifier, opt (alt [
    seq [act adopt, mark .colon, type, act (label .type), alt [
      seq [mark .eq, ref rightSide, act (label .value), act (close .typedDefaultParameter)],
      act (close .typedParameter)]],
    seq [act adopt, mark .eq, ref rightSide, act (label .value),
      act (close .defaultParameter)]])]

def parameters : Rule :=
  seq [node .parameters [mark .parenOpen, opt (list parameter), mark .parenClose],
    act (label .parameters)]

def returnType : Rule :=
  seq [mark .arrow, type, act (label .returnType)]

def colonBody : Rule :=
  seq [mark .colon, ref body, act (label .body)]

def functionRest : Rule :=
  seq [opt declaredName, parameters, opt returnType, colonBody]

def lambda : Rule :=
  node (.other "lambda") [key .func, functionRest]

def assigned : Rule :=
  seq [mark .eq, ref rightSide, act (label .value)]

def inferredAssigned : Rule :=
  seq [token (.mark .colonEq) (some .inferredType), act (label .type), ref rightSide,
    act (label .value)]

def setter : Rule :=
  seq [key .set, parameters, colonBody]

def getter : Rule :=
  seq [key .get, opt parameters, colonBody]

def accessors : Rule :=
  node (.other "setget") [token .indent none, alt [
    seq [key .set, alt [
      seq [mark .eq, identifier, opt (seq [mark .comma, key .get, mark .eq, identifier])],
      seq [parameters, colonBody, opt getter]]],
    seq [key .get, alt [
      seq [mark .eq, identifier, opt (seq [mark .comma, key .set, mark .eq, identifier])],
      seq [opt parameters, colonBody, opt setter]]]], token .dedent none]

def accessorsBehind : Rule :=
  opt (alt [seq [mark .colon, accessors], node (.other "setget") [key .setget, alt [
    seq [identifier, opt (seq [mark .comma, identifier])],
    seq [mark .comma, identifier]]]])

def variableRest : Rule :=
  seq [key .var, declaredName, alt [
    seq [inferredAssigned, accessorsBehind],
    seq [mark .colon, alt [
      seq [assigned, accessorsBehind],
      accessors,
      seq [type, act (label .type), opt assigned, accessorsBehind]]],
    seq [assigned, accessorsBehind],
    accessorsBehind]]

def static : Rule :=
  token (.keyword .static) (some .staticKeyword)

def maybeStaticVariable : Rule :=
  seq [opt static, variableRest]

def remoteKeyword : Rule :=
  alt (([.remote, .master, .puppet, .remotesync, .mastersync, .puppetsync] : List Keyword).map
    fun k => token (.keyword k) (some (.other "remote_keyword")))

def exportVariable : Rule :=
  node .exportVariable [key .export, opt arguments, opt (alt [key .onready, remoteKeyword]),
    opt annotations, maybeStaticVariable]

def onreadyVariable : Rule :=
  node .onreadyVariable [key .onready, opt annotations, maybeStaticVariable]

def constant : Rule :=
  node .constant [key .const, declaredName, alt [
    inferredAssigned,
    seq [mark .colon, alt [assigned, seq [type, act (label .type), assigned]]],
    assigned]]

def extendsClause : Rule :=
  node .extends [key .extends, base]

def assignment : Rule :=
  alt (mark .eq :: ([.plusEq, .minusEq, .starEq, .slashEq, .powerEq, .percentEq, .shiftLeftEq,
    .shiftRightEq, .ampEq, .caretEq, .barEq] : List Mark).map mark)

def plainSimple : Rule :=
  alt [node .tool [key .tool],
    node .signal [key .signal, declaredName, opt parameters],
    node .className [key .className, declaredName,
      opt (seq [mark .comma, token .string (some .string)])],
    extendsClause, exportVariable, onreadyVariable, constant,
    node .variable [variableRest],
    node (.other "return_statement") [key .return, opt (ref rightSide)],
    node (.other "pass_statement") [key .pass],
    node (.other "break_statement") [key .break],
    node (.other "breakpoint_statement") [key .breakpoint],
    node (.other "continue_statement") [key .continue],
    node (.other "expression_statement")
      [ref expression, opt (seq [assignment, ref rightSide])]]

def lineEnd : Rule :=
  seq [ref moreSimple, alt [token .newline none, token .lineClosed none]]

def condition : Rule :=
  seq [ref expression, colonBody]

def pattern : Rule :=
  alt [patternBinding, ref primary]

def matchSection : Rule :=
  node (.other "pattern_section")
    [pattern, many (seq [mark .comma, pattern]), opt (seq [key .when, ref expression]), colonBody]

def enumeratorValue : Rule :=
  seq [ref primary,
    act (require [.integer, .identifier, .operation, .attribute, .subscript, .call,
      .parenthesized])]

def enumerator : Rule :=
  node .enumerator [identifier, act (label .left), opt (seq [mark .eq, enumeratorValue])]

def compound : Rule :=
  alt [node (.other "if_statement") [key .if, condition, many (seq [key .elif, condition]),
      opt (seq [key .else, colonBody])],
    node (.other "while_statement") [key .while, condition],
    node (.other "for_statement") [key .for, identifier, opt (seq [mark .colon, type]), key .in,
      condition],
    node (.other "match_statement") [key .match, ref expression, mark .colon,
      node (.other "match_body") [token .indent none, matchSection, many matchSection,
        token .dedent none]],
    node .class [key .class, declaredName, opt (seq [extendsClause, act (label .extends)]),
      colonBody],
    node .enumeration [key .enum, opt declaredName,
      node .enumerators [mark .braceOpen, list enumerator, mark .braceClose],
      act (label .body)]]

def functionFrom : Rule :=
  seq [key .func, functionRest, act (close .function)]

def functionOrConstructor : Rule :=
  seq [act .open, key .func, alt [
    seq [key .init, parameters, opt (seq [mark .dot, arguments]), opt returnType, colonBody,
      act (close .constructor)],
    seq [functionRest, act (close .function)]]]

def variableEnd : Rule :=
  seq [act (close .variable), lineEnd]

def annotated : Rule :=
  seq [annotations, alt [
    seq [act adopt, maybeStaticVariable, variableEnd],
    seq [act adopt, functionFrom],
    lineEnd]]

def staticDeclaration : Rule :=
  seq [act .open, static, alt [
    seq [variableRest, variableEnd],
    seq [opt annotations, functionFrom]]]

def remoteDeclaration : Rule :=
  seq [act .open, remoteKeyword, opt annotations, alt [
    seq [maybeStaticVariable, variableEnd],
    functionFrom]]

def rule : Symbol → Rule
  | .statement => alt [annotated, staticDeclaration, remoteDeclaration, functionOrConstructor,
      compound, seq [plainSimple, lineEnd]]
  | .simple => alt [
      seq [annotations, opt (seq [act adopt, maybeStaticVariable, act (close .variable)])],
      node .variable [static, variableRest],
      node .variable [remoteKeyword, opt annotations, maybeStaticVariable],
      plainSimple]
  | .moreSimple => opt (seq [mark .semicolon, opt (seq [ref simple, ref moreSimple])])
  | .body => node .body [alt [
      token .newline none,
      token .lineClosed none,
      seq [token .indent none, many (ref statement),
        alt [token .dedent none, token .blockClosed none]],
      seq [ref simple, lineEnd]]]
  | .rightSide => alt [lambda, ref expression]
  | .expression => alt [
      node (.other "await_expression") [key .await, ref expression],
      seq [ref primary, opt (seq [act adopt, key .if, ref expression, key .else, ref expression,
        act (close (.other "conditional_expression"))])]]
  | .primary => alt [
      seq [act .open, unaryOperator, ref operand, ref behindOperand],
      seq [atom, ref behindWhole]]
  | .operand => seq [many unaryOperator, atom, many (alt [member, call])]
  | .behindWhole => alt [
      seq [],
      seq [alt [member, call, subscript], ref behindWhole],
      seq [act adopt, binaryOperator, ref operand, ref behindOperand]]
  | .behindOperand => alt [
      act (close .operation),
      seq [binaryOperator, ref operand, ref behindOperand],
      seq [act (close .operation), subscript, ref behindWhole]]

def script : List Rule :=
  [many (ref statement)]

end Grammar

-- The terminals that may come next where these rules are still to be matched, in this order, given
-- the kind of the node that was finished last. The number bounds how many rules are opened on the
-- way to a terminal.
def expected : Nat → (last : Option Kind) → List Rule → List Terminal
  | 0, _, _ => []
  | _ + 1, _, [] => [.endOfText]
  | n + 1, last, r :: rest =>
    match r with
    | .token t _ => [t]
    | .act (.close kind) => expected n (some kind) rest
    | .act (.require kinds) => if last.any kinds.contains then expected n last rest else []
    | .act _ => expected n last rest
    | .seq rs => expected n last (rs ++ rest)
    | .alt rs => rs.flatMap fun r => expected n last (r :: rest)
    | .opt r => expected n last (r :: rest) ++ expected n last rest
    | .many r => expected n last (r :: rest) ++ expected n last rest
    | .more t _ => t :: expected n last rest
    | .ref s => expected n last (Grammar.rule s :: rest)

end GodotAtlas.Script
