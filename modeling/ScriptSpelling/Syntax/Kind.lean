/-!
# Kinds of nodes

The kinds of nodes in the concrete syntax tree of a script. Keywords, operators and punctuation
are nodes as well: their kind is the text itself. `Kind.error` marks text that fits nowhere.
-/

namespace ScriptSpelling.Syntax

/-- The kind of a node of a syntax tree. -/
inductive Kind where
  | program | hashBangLine | comment | htmlComment | exportStatement | namespaceExport
  | exportClause | exportSpecifier | importCallee | importStatement | importClause
  | namespaceImport | namedImports | importSpecifier | importAttribute | expressionStatement
  | variableDeclaration | lexicalDeclaration | variableDeclarator | statementBlock | elseClause
  | ifStatement | switchStatement | forStatement | forInStatement | whileStatement | doStatement
  | tryStatement | withStatement | breakStatement | continueStatement | debuggerStatement
  | returnStatement | throwStatement | emptyStatement | labeledStatement | switchBody | switchCase
  | switchDefault | catchClause | finallyClause | parenthesizedExpression | yieldExpression
  | object | objectPattern | assignmentPattern | objectAssignmentPattern | array | arrayPattern
  | jsxElement | jsxText | htmlCharacterReference | jsxExpression | jsxOpeningElement
  | jsxNamespaceName | jsxClosingElement | jsxSelfClosingElement | jsxAttribute | classExpression
  | classDeclaration | classHeritage | functionExpression | functionDeclaration
  | generatorFunction | generatorFunctionDeclaration | arrowFunction | optionalChain
  | callExpression | newExpression | awaitExpression | memberExpression | subscriptExpression
  | assignmentExpression | augmentedAssignmentExpression | spreadElement | ternaryExpression
  | binaryExpression | unaryExpression | updateExpression | sequenceExpression | string
  | stringFragment | escapeSequence | templateString | templateSubstitution | regex | regexPattern
  | regexFlags | number | identifier | propertyIdentifier | shorthandPropertyIdentifier
  | shorthandPropertyIdentifierPattern | statementIdentifier | privatePropertyIdentifier
  | metaProperty | thisKeyword | superKeyword | trueLiteral | falseLiteral | nullLiteral
  | undefinedLiteral | arguments | decorator | classBody | fieldDefinition | formalParameters
  | classStaticBlock | restPattern | methodDefinition | pair | pairPattern | computedPropertyName
  /-- A keyword, an operator or a punctuation mark. -/
  | token (text : String)
  /-- Text that the grammar has no place for. -/
  | error
deriving Repr, DecidableEq

/-- The name by which nodes of a kind are selected. -/
def Kind.name : Kind → String
  | .program => "program"
  | .hashBangLine => "hash_bang_line"
  | .comment => "comment"
  | .htmlComment => "html_comment"
  | .exportStatement => "export_statement"
  | .namespaceExport => "namespace_export"
  | .exportClause => "export_clause"
  | .exportSpecifier => "export_specifier"
  | .importCallee => "import"
  | .importStatement => "import_statement"
  | .importClause => "import_clause"
  | .namespaceImport => "namespace_import"
  | .namedImports => "named_imports"
  | .importSpecifier => "import_specifier"
  | .importAttribute => "import_attribute"
  | .expressionStatement => "expression_statement"
  | .variableDeclaration => "variable_declaration"
  | .lexicalDeclaration => "lexical_declaration"
  | .variableDeclarator => "variable_declarator"
  | .statementBlock => "statement_block"
  | .elseClause => "else_clause"
  | .ifStatement => "if_statement"
  | .switchStatement => "switch_statement"
  | .forStatement => "for_statement"
  | .forInStatement => "for_in_statement"
  | .whileStatement => "while_statement"
  | .doStatement => "do_statement"
  | .tryStatement => "try_statement"
  | .withStatement => "with_statement"
  | .breakStatement => "break_statement"
  | .continueStatement => "continue_statement"
  | .debuggerStatement => "debugger_statement"
  | .returnStatement => "return_statement"
  | .throwStatement => "throw_statement"
  | .emptyStatement => "empty_statement"
  | .labeledStatement => "labeled_statement"
  | .switchBody => "switch_body"
  | .switchCase => "switch_case"
  | .switchDefault => "switch_default"
  | .catchClause => "catch_clause"
  | .finallyClause => "finally_clause"
  | .parenthesizedExpression => "parenthesized_expression"
  | .yieldExpression => "yield_expression"
  | .object => "object"
  | .objectPattern => "object_pattern"
  | .assignmentPattern => "assignment_pattern"
  | .objectAssignmentPattern => "object_assignment_pattern"
  | .array => "array"
  | .arrayPattern => "array_pattern"
  | .jsxElement => "jsx_element"
  | .jsxText => "jsx_text"
  | .htmlCharacterReference => "html_character_reference"
  | .jsxExpression => "jsx_expression"
  | .jsxOpeningElement => "jsx_opening_element"
  | .jsxNamespaceName => "jsx_namespace_name"
  | .jsxClosingElement => "jsx_closing_element"
  | .jsxSelfClosingElement => "jsx_self_closing_element"
  | .jsxAttribute => "jsx_attribute"
  | .classExpression => "class"
  | .classDeclaration => "class_declaration"
  | .classHeritage => "class_heritage"
  | .functionExpression => "function_expression"
  | .functionDeclaration => "function_declaration"
  | .generatorFunction => "generator_function"
  | .generatorFunctionDeclaration => "generator_function_declaration"
  | .arrowFunction => "arrow_function"
  | .optionalChain => "optional_chain"
  | .callExpression => "call_expression"
  | .newExpression => "new_expression"
  | .awaitExpression => "await_expression"
  | .memberExpression => "member_expression"
  | .subscriptExpression => "subscript_expression"
  | .assignmentExpression => "assignment_expression"
  | .augmentedAssignmentExpression => "augmented_assignment_expression"
  | .spreadElement => "spread_element"
  | .ternaryExpression => "ternary_expression"
  | .binaryExpression => "binary_expression"
  | .unaryExpression => "unary_expression"
  | .updateExpression => "update_expression"
  | .sequenceExpression => "sequence_expression"
  | .string => "string"
  | .stringFragment => "string_fragment"
  | .escapeSequence => "escape_sequence"
  | .templateString => "template_string"
  | .templateSubstitution => "template_substitution"
  | .regex => "regex"
  | .regexPattern => "regex_pattern"
  | .regexFlags => "regex_flags"
  | .number => "number"
  | .identifier => "identifier"
  | .propertyIdentifier => "property_identifier"
  | .shorthandPropertyIdentifier => "shorthand_property_identifier"
  | .shorthandPropertyIdentifierPattern => "shorthand_property_identifier_pattern"
  | .statementIdentifier => "statement_identifier"
  | .privatePropertyIdentifier => "private_property_identifier"
  | .metaProperty => "meta_property"
  | .thisKeyword => "this"
  | .superKeyword => "super"
  | .trueLiteral => "true"
  | .falseLiteral => "false"
  | .nullLiteral => "null"
  | .undefinedLiteral => "undefined"
  | .arguments => "arguments"
  | .decorator => "decorator"
  | .classBody => "class_body"
  | .fieldDefinition => "field_definition"
  | .formalParameters => "formal_parameters"
  | .classStaticBlock => "class_static_block"
  | .restPattern => "rest_pattern"
  | .methodDefinition => "method_definition"
  | .pair => "pair"
  | .pairPattern => "pair_pattern"
  | .computedPropertyName => "computed_property_name"
  | .token text => text
  | .error => "ERROR"

end ScriptSpelling.Syntax
