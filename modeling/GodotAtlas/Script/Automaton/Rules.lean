import GodotAtlas.Script.Automaton.Phrase

namespace GodotAtlas.Script.Automaton

open Phrase

inductive Level where
  | conditional | parenthesized | disjunction | conjunction | membership | comparison
  | bitOr | bitXor | bitAnd | shift | sum | product | sign | power | typed | call | member

def Level.value : Level → Int
  | conditional => -1 | parenthesized => 1 | disjunction => 10 | conjunction => 11
  | membership => 12 | comparison => 13 | bitOr => 14 | bitXor => 15 | bitAnd => 16
  | shift => 17 | sum => 18 | product => 19 | sign => 20 | power => 21 | typed => 22 | call => 23
  | member => 24

def binds (level : Level) (p : Phrase) : Phrase :=
  ranked level.value none p

def infixed (level : Level) (operator : List Phrase) : Phrase :=
  ranked level.value (some .left)
    (sequence ([rule "_primary_expression"] ++ operator ++ [rule "_primary_expression"]))

def signed (operator : Phrase) : Phrase :=
  binds .sign (sequence [operator, rule "_primary_expression"])

-- Items with commas between them and perhaps one behind the last; `further` is the list rule of the
-- items behind the first.
def listed (item : Phrase) (further : String) : Phrase :=
  sequence [item, optional (rule further), optional (mark .comma)]

def further (item : Phrase) : Phrase :=
  sequence [mark .comma, item]

def simpleStatement : Phrase :=
  choice [rule "annotations", key .tool, rule "signal_statement", rule "class_name_statement",
    rule "extends_statement", rule "expression_statement", rule "export_variable_statement",
    rule "onready_variable_statement", rule "variable_statement", rule "const_statement",
    rule "return_statement", key .pass, key .break, key .breakpoint, key .continue]

def compoundStatement : Phrase :=
  choice [rule "if_statement", rule "for_statement", rule "while_statement",
    rule "function_definition", rule "constructor_definition", rule "class_definition",
    rule "enum_definition", rule "match_statement"]

def statementRules : List (String × Phrase) :=
  [("source", optional (rule "_script_statements")),
   ("_statement", choice [rule "_simple_statements", compoundStatement]),
   ("body", choice [rule "_simple_statements",
      sequence [terminal .indent, optional (rule "_body_statements"),
        choice [terminal .dedent, terminal .lineClosed]],
      terminal .newline, terminal .lineClosed]),
   ("_simple_statements", sequence [simpleStatement, optional (rule "_further_statements"),
      optional (mark .semicolon), choice [terminal .newline, terminal .lineClosed]]),
   ("expression_statement",
      choice [rule "_expression", rule "assignment", rule "augmented_assignment"])]

def variableRules : List (String × Phrase) :=
  [("annotation", sequence [mark .at, rule "identifier", optional (rule "arguments")]),
   ("annotations", rule "_annotation_list"),
   ("inferred_type", choice [mark .colonEq, sequence [mark .colon, mark .eq]]),
   ("_variable_assignment", sequence [mark .eq, rule "_rhs_expression"]),
   ("_variable_inferred_type_assignment",
      sequence [rule "inferred_type", rule "_rhs_expression"]),
   ("_variable_typed_assignment",
      sequence [mark .colon, rule "type", mark .eq, rule "_rhs_expression"]),
   ("_variable_typed_definition", choice [sequence [mark .colon, rule "type"],
      rule "_variable_typed_assignment", rule "_variable_inferred_type_assignment"]),
   ("_variable_statement", sequence [optional (rule "annotations"), optional (key .static),
      key .var, rule "name",
      optional (choice [rule "_variable_typed_definition", rule "_variable_assignment"]),
      optional (rule "setget")]),
   ("variable_statement", sequence [optional (rule "remote_keyword"), rule "_variable_statement"]),
   ("export_variable_statement", sequence [key .export, optional (rule "arguments"),
      optional (choice [key .onready, rule "remote_keyword"]), rule "_variable_statement"]),
   ("onready_variable_statement", sequence [key .onready, rule "_variable_statement"]),
   ("setget", choice [
      sequence [key .setget, choice [rule "setter",
        sequence [rule "setter", mark .comma, rule "getter"],
        sequence [mark .comma, rule "getter"]]],
      sequence [mark .colon, terminal .indent, choice [
        sequence [rule "set_body", optional (rule "get_body")],
        sequence [rule "get_body", optional (rule "set_body")],
        sequence [rule "_set_assign", optional (sequence [mark .comma, rule "_get_assign"])],
        sequence [rule "_get_assign", optional (sequence [mark .comma, rule "_set_assign"])]],
        terminal .dedent]]),
   ("setter", terminal .name),
   ("getter", terminal .name),
   ("set_body", sequence [key .set, rule "parameters", mark .colon, rule "body"]),
   ("get_body", sequence [key .get, optional (rule "parameters"), mark .colon, rule "body"]),
   ("_set_assign", sequence [key .set, mark .eq, rule "setter"]),
   ("_get_assign", sequence [key .get, mark .eq, rule "getter"]),
   ("const_statement", sequence [key .const, rule "name",
      choice [rule "_variable_inferred_type_assignment", rule "_variable_typed_assignment",
        rule "_variable_assignment"]])]

def declarationRules : List (String × Phrase) :=
  [("return_statement", sequence [key .return, optional (rule "_rhs_expression")]),
   ("signal_statement", sequence [key .signal, rule "name", optional (rule "parameters")]),
   ("class_name_statement", sequence [key .className, rule "name",
      optional (sequence [mark .comma, rule "string"])]),
   ("extends_statement", sequence [key .extends, choice [rule "string", rule "type"]]),
   ("if_statement", sequence [key .if, rule "_expression", mark .colon, rule "body",
      optional (rule "_elif_clauses"), optional (rule "else_clause")]),
   ("elif_clause", sequence [key .elif, rule "_expression", mark .colon, rule "body"]),
   ("else_clause", sequence [key .else, mark .colon, rule "body"]),
   ("for_statement", sequence [key .for, rule "identifier",
      optional (sequence [mark .colon, rule "type"]), key .in, rule "_expression", mark .colon,
      rule "body"]),
   ("while_statement", sequence [key .while, rule "_expression", mark .colon, rule "body"]),
   ("class_definition", sequence [key .class, rule "name", optional (rule "extends_statement"),
      mark .colon, rule "body"]),
   ("enum_definition", sequence [key .enum, optional (rule "name"), rule "enumerator_list"]),
   ("enumerator_list", sequence [mark .braceOpen, listed (rule "enumerator") "_further_enumerators",
      mark .braceClose]),
   ("_enumerator_expression", choice [terminal .integer, rule "identifier", rule "binary_operator",
      rule "unary_operator", rule "attribute", rule "subscript", rule "call",
      rule "parenthesized_expression"]),
   ("enumerator", sequence [rule "identifier",
      optional (sequence [mark .eq, rule "_enumerator_expression"])]),
   ("match_statement", sequence [key .match, rule "_expression", mark .colon, rule "match_body"]),
   ("match_body", sequence [terminal .indent, rule "_pattern_sections", terminal .dedent]),
   ("pattern_section", sequence [rule "_pattern", optional (rule "_further_patterns"),
      optional (rule "pattern_guard"), mark .colon, rule "body"]),
   ("_pattern", choice [rule "_primary_expression", rule "pattern_binding"]),
   ("pattern_binding", sequence [key .var, rule "identifier"]),
   ("pattern_guard", sequence [key .when, rule "_expression"]),
   ("pattern_open_ending", mark .dots),
   ("identifier", terminal .name),
   ("name", terminal .name),
   ("remote_keyword", choice [key .remote, key .master, key .puppet, key .remotesync,
      key .mastersync, key .puppetsync]),
   ("string", sequence [terminal .stringStart, optional (rule "_string_pieces"),
      terminal .stringEnd]),
   ("string_name", sequence [mark .amp, rule "string"]),
   ("type", ranked 1 none (choice [rule "attribute", rule "identifier", rule "subscript"]))]

def expressionRules : List (String × Phrase) :=
  [("_expression", choice [rule "_primary_expression", rule "conditional_expression",
      rule "await_expression"]),
   ("_rhs_expression", choice [rule "_expression", rule "lambda"]),
   ("_primary_expression", choice [rule "binary_operator", rule "identifier", rule "string",
      terminal .integer, terminal .float, key .true, key .false, key .null, rule "unary_operator",
      rule "attribute", rule "subscript", rule "base_call", rule "call", rule "array",
      rule "dictionary", rule "parenthesized_expression", rule "string_name", terminal .nodePath,
      terminal .nodeReference]),
   ("binary_operator", choice [
      infixed .membership [key .in],
      infixed .conjunction [key .and], infixed .conjunction [mark .ampAmp],
      infixed .disjunction [key .or], infixed .disjunction [mark .barBar],
      infixed .sum [mark .plus], infixed .sum [mark .minus],
      infixed .product [mark .star], infixed .product [mark .slash],
      infixed .power [mark .power], infixed .product [mark .percent],
      infixed .bitOr [mark .bar], infixed .bitAnd [mark .amp], infixed .bitXor [mark .caret],
      infixed .shift [mark .shiftLeft], infixed .shift [mark .shiftRight],
      infixed .comparison [mark .less], infixed .comparison [mark .lessEq],
      infixed .comparison [mark .eqEq], infixed .comparison [mark .bangEq],
      infixed .comparison [mark .greaterEq], infixed .comparison [mark .greater],
      infixed .typed [key .as], infixed .typed [key .is], infixed .typed [key .is, key .not]]),
   ("unary_operator", choice [signed (key .not), signed (mark .bang), signed (mark .minus),
      signed (mark .plus), signed (mark .tilde)]),
   ("subscript", sequence [rule "_primary_expression", mark .bracketOpen, rule "_expression",
      mark .bracketClose]),
   ("attribute_call", binds .member (sequence [rule "identifier", rule "arguments"])),
   ("attribute_subscript", binds .member (sequence [rule "identifier", mark .bracketOpen,
      rule "_primary_expression", mark .bracketClose])),
   ("attribute", binds .member (sequence [rule "_primary_expression", rule "_attribute_parts"])),
   ("conditional_expression", ranked Level.conditional.value (some .right)
      (sequence [rule "_expression", key .if, rule "_expression", key .else, rule "_expression"])),
   ("parenthesized_expression", binds .parenthesized
      (sequence [mark .parenOpen, rule "_rhs_expression", mark .parenClose])),
   ("await_expression", binds .sign (sequence [key .await, rule "_expression"])),
   ("assignment", sequence [rule "_expression", mark .eq, rule "_rhs_expression"]),
   ("augmented_assignment", sequence [rule "_expression",
      choice [mark .plusEq, mark .minusEq, mark .starEq, mark .slashEq, mark .powerEq,
        mark .percentEq, mark .shiftRightEq, mark .shiftLeftEq, mark .ampEq, mark .caretEq,
        mark .barEq],
      rule "_rhs_expression"]),
   ("pair", choice [
      sequence [rule "_rhs_expression", mark .colon,
        choice [rule "_rhs_expression", rule "pattern_binding"]],
      sequence [rule "identifier", mark .eq,
        choice [rule "_rhs_expression", rule "pattern_binding"]]]),
   ("dictionary", sequence [mark .braceOpen, optional (listed (rule "pair") "_further_pairs"),
      optional (rule "pattern_open_ending"), mark .braceClose]),
   ("array", sequence [mark .bracketOpen,
      optional (listed (choice [rule "_rhs_expression", rule "pattern_binding"])
        "_further_elements"),
      optional (rule "pattern_open_ending"), mark .bracketClose]),
   ("call", binds .call (sequence [rule "_primary_expression", rule "arguments"])),
   ("base_call", binds .call (sequence [mark .dot, rule "identifier", rule "arguments"])),
   ("arguments", sequence [mark .parenOpen,
      optional (listed (rule "_rhs_expression") "_further_arguments"), mark .parenClose])]

def functionRules : List (String × Phrase) :=
  [("typed_parameter", sequence [rule "identifier", mark .colon, rule "type"]),
   ("default_parameter", sequence [rule "identifier", mark .eq, rule "_rhs_expression"]),
   ("typed_default_parameter", sequence [rule "identifier", mark .colon, rule "type", mark .eq,
      rule "_rhs_expression"]),
   ("_parameters", choice [rule "identifier", rule "typed_parameter", rule "default_parameter",
      rule "typed_default_parameter"]),
   ("parameters", sequence [mark .parenOpen,
      optional (listed (rule "_parameters") "_further_parameters"), mark .parenClose]),
   ("_return_type", sequence [mark .arrow, rule "type"]),
   ("function_definition", sequence [
      optional (choice [key .static, rule "remote_keyword"]), optional (rule "annotations"),
      key .func, optional (rule "name"), rule "parameters", optional (rule "_return_type"),
      mark .colon, rule "body"]),
   ("constructor_definition", sequence [key .func, key .init, rule "parameters",
      optional (sequence [mark .dot, rule "arguments"]), optional (rule "_return_type"),
      mark .colon, rule "body"]),
   ("lambda", sequence [key .func, optional (rule "name"), rule "parameters",
      optional (rule "_return_type"), mark .colon, rule "body"])]

def rules : List (String × Phrase) :=
  statementRules ++ variableRules ++ declarationRules ++ expressionRules ++ functionRules

def listRules : List (String × Phrase) :=
  [("_script_statements", rule "_statement"),
   ("_body_statements", rule "_statement"),
   ("_further_statements", sequence [mark .semicolon, simpleStatement]),
   ("_annotation_list", rule "annotation"),
   ("_elif_clauses", rule "elif_clause"),
   ("_further_enumerators", further (rule "enumerator")),
   ("_pattern_sections", rule "pattern_section"),
   ("_further_patterns", further (rule "_pattern")),
   ("_string_pieces", choice [terminal .stringEscape, terminal .stringText]),
   ("_attribute_parts", sequence [mark .dot,
      choice [rule "attribute_subscript", rule "attribute_call", rule "identifier"]]),
   ("_further_pairs", further (rule "pair")),
   ("_further_elements", further (choice [rule "_rhs_expression", rule "pattern_binding"])),
   ("_further_arguments", further (rule "_rhs_expression")),
   ("_further_parameters", further (rule "_parameters"))]

def textTerminals : List Terminal :=
  [.name, .mark .semicolon, .keyword .tool, .keyword .pass, .keyword .break, .keyword .breakpoint,
   .keyword .continue, .mark .at, .mark .colonEq, .mark .colon, .mark .eq, .keyword .static,
   .keyword .var, .keyword .export, .keyword .onready, .keyword .setget, .mark .comma,
   .keyword .set, .keyword .get, .keyword .const, .keyword .return, .keyword .signal,
   .keyword .className, .keyword .extends, .keyword .if, .keyword .elif, .keyword .else,
   .keyword .for, .keyword .in, .keyword .while, .keyword .class, .keyword .enum,
   .mark .braceOpen, .mark .braceClose, .integer, .keyword .match, .keyword .when, .mark .dots,
   .keyword .remote, .keyword .master, .keyword .puppet, .keyword .remotesync,
   .keyword .mastersync, .keyword .puppetsync, .stringEscape, .mark .amp, .float,
   .keyword .true, .keyword .false, .keyword .null, .nodePath, .nodeReference, .keyword .and,
   .mark .ampAmp, .keyword .or, .mark .barBar, .mark .plus, .mark .minus, .mark .star, .mark .slash,
   .mark .power, .mark .percent, .mark .bar, .mark .caret, .mark .shiftLeft, .mark .shiftRight,
   .mark .less, .mark .lessEq, .mark .eqEq, .mark .bangEq, .mark .greaterEq, .mark .greater,
   .keyword .as, .keyword .is, .keyword .not, .mark .bang, .mark .tilde, .mark .bracketOpen,
   .mark .bracketClose, .mark .dot, .mark .parenOpen, .mark .parenClose, .keyword .await,
   .mark .plusEq, .mark .minusEq, .mark .starEq, .mark .slashEq, .mark .powerEq,
   .mark .percentEq, .mark .shiftRightEq, .mark .shiftLeftEq, .mark .ampEq, .mark .caretEq,
   .mark .barEq, .mark .arrow, .keyword .func, .keyword .init]

def layoutTerminals : List Terminal :=
  [.newline, .indent, .dedent, .stringStart, .stringText, .stringEnd, .comment, .lineClosed]

def terminals : List Terminal :=
  textTerminals ++ layoutTerminals ++ [.endOfText]

end GodotAtlas.Script.Automaton
