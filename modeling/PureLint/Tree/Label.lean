import PureLint.Number.Double
import PureLint.Text.Basic

/-!
# Labels of the syntax tree

The kind of each node of a program, with what a rule may ask of it beyond its children: names,
literal values, operators and modifiers. `Label.kindName` is the name under which a kind is
reported.
-/

namespace PureLint

/-- The operators written before their operand that do not change it. -/
inductive UnaryOperator where
  | plus | minus | not | bitNot | typeof | void | delete
deriving DecidableEq, Repr

inductive DeclarationKind where
  | var | letBinding | const | using | awaitUsing
deriving DecidableEq, Repr

inductive MethodKind where
  | constructor | method | get | set
deriving DecidableEq, Repr

inductive PropertyKind where
  | init | get | set
deriving DecidableEq, Repr

inductive TypeOperator where
  | keyof | unique | readonly
deriving DecidableEq, Repr

/-- The types that have a word of their own. -/
inductive TypeKeyword where
  | any | bigint | boolean | intrinsic | never | null | number | object
  | string | symbol | undefined | unknown | void
deriving DecidableEq, Repr

/-- The kind of a node. -/
inductive Label where
  | program
  | hashbang
  | directive
  | identifierName (name : Text)
  | identifierReference (name : Text)
  | bindingIdentifier (name : Text)
  | labelIdentifier (name : Text)
  | privateIdentifier (name : Text)
  | booleanLiteral (value : Bool)
  | nullLiteral
  | numericLiteral (value : Double)
  | bigIntLiteral (value : Nat)
  | stringLiteral (value : Text)
  | regExpLiteral (written : Text)
  | templateLiteral
  | templateElement (cooked : Option Text)
  | taggedTemplate
  | thisExpression
  | super
  | arrayExpression
  | elision
  | objectExpression
  | objectProperty (kind : PropertyKind)
  | spreadElement
  | staticMember
  | computedMember
  | privateMember
  | callExpression
  | newExpression
  | importExpression
  | metaProperty
  | chainExpression
  | parenthesizedExpression
  | unaryExpression (op : UnaryOperator)
  | updateExpression
  | binaryExpression
  | privateInExpression
  | logicalExpression (nullish : Bool)
  | conditionalExpression
  | assignmentExpression (plain : Bool)
  | sequenceExpression
  | awaitExpression
  | yieldExpression
  | arrowFunction (isAsync concise : Bool)
  | asExpression
  | satisfiesExpression
  | typeAssertion
  | nonNullExpression
  | instantiationExpression
  | arrayTarget
  | objectTarget
  | targetRest
  | targetWithDefault
  | targetShorthand
  | targetProperty
  | blockStatement
  | emptyStatement
  | expressionStatement
  | ifStatement
  | doWhileStatement
  | whileStatement
  | forStatement
  | forInStatement
  | forOfStatement
  | continueStatement
  | breakStatement
  | returnStatement
  | withStatement
  | switchStatement
  | switchCase
  | labeledStatement
  | throwStatement
  | tryStatement
  | catchClause
  | catchParameter
  | debuggerStatement
  | variableDeclaration (kind : DeclarationKind)
  | variableDeclarator
  | assignmentPattern
  | objectPattern
  | bindingProperty
  | arrayPattern
  | bindingRest
  | function (isAsync : Bool)
  | formalParameters
  | formalParameter (accessible isReadonly : Bool)
  | formalParameterRest
  | thisParameter
  | functionBody
  | classDefinition
  | classBody
  | methodDefinition (kind : MethodKind)
  | propertyDefinition (computed isReadonly : Bool)
  | accessorProperty
  | staticBlock
  | decorator
  | importDeclaration
  | importSpecifier
  | importDefaultSpecifier
  | importNamespaceSpecifier
  | withClause
  | importAttribute
  | exportNamedDeclaration
  | exportDefaultDeclaration
  | exportAllDeclaration
  | exportSpecifier
  | importEqualsDeclaration
  | externalModuleReference
  | exportAssignment
  | namespaceExportDeclaration
  | jsxElement
  | jsxOpeningElement
  | jsxClosingElement
  | jsxFragment
  | jsxOpeningFragment
  | jsxClosingFragment
  | jsxIdentifier (name : Text)
  | jsxNamespacedName
  | jsxMemberExpression
  | jsxAttribute
  | jsxSpreadAttribute
  | jsxExpressionContainer
  | jsxEmptyExpression
  | jsxSpreadChild
  | jsxText
  | typeAscription
  | keywordType (name : TypeKeyword)
  | thisType
  | literalType
  | templateType
  | typeReference
  | qualifiedName
  | typeArguments
  | typeParameters
  | typeParameter
  | conditionalType
  | unionType
  | intersectionType
  | parenthesizedType
  | typeOperator (op : TypeOperator)
  | arrayType
  | indexedAccessType
  | tupleType
  | namedTupleMember
  | optionalType
  | restType
  | typeLiteral
  | propertySignature (isReadonly : Bool)
  | methodSignature
  | indexSignature (isReadonly isStatic : Bool)
  | indexSignatureName
  | callSignature
  | constructSignature
  | functionType
  | constructorType
  | mappedType
  | inferType
  | typeQuery
  | importType
  | importTypeQualifiedName
  | typePredicate
  | nullableType
  | nonNullableType
  | unknownType
  | interfaceDeclaration
  | interfaceBody
  | interfaceHeritage
  | classImplements
  | typeAliasDeclaration
  | enumDeclaration
  | enumBody
  | enumMember
  | moduleDeclaration
  | globalDeclaration
  | moduleBlock
deriving DecidableEq, Repr

def TypeKeyword.kindName : TypeKeyword → String
  | .any => "TSAnyKeyword"
  | .bigint => "TSBigIntKeyword"
  | .boolean => "TSBooleanKeyword"
  | .intrinsic => "TSIntrinsicKeyword"
  | .never => "TSNeverKeyword"
  | .null => "TSNullKeyword"
  | .number => "TSNumberKeyword"
  | .object => "TSObjectKeyword"
  | .string => "TSStringKeyword"
  | .symbol => "TSSymbolKeyword"
  | .undefined => "TSUndefinedKeyword"
  | .unknown => "TSUnknownKeyword"
  | .void => "TSVoidKeyword"

/-- The name under which a kind of node is reported. -/
def Label.kindName : Label → String
  | .program => "Program"
  | .hashbang => "Hashbang"
  | .directive => "Directive"
  | .identifierName _ => "IdentifierName"
  | .identifierReference _ => "IdentifierReference"
  | .bindingIdentifier _ => "BindingIdentifier"
  | .labelIdentifier _ => "LabelIdentifier"
  | .privateIdentifier _ => "PrivateIdentifier"
  | .booleanLiteral _ => "BooleanLiteral"
  | .nullLiteral => "NullLiteral"
  | .numericLiteral _ => "NumericLiteral"
  | .bigIntLiteral _ => "BigIntLiteral"
  | .stringLiteral _ => "StringLiteral"
  | .regExpLiteral _ => "RegExpLiteral"
  | .templateLiteral => "TemplateLiteral"
  | .templateElement _ => "TemplateElement"
  | .taggedTemplate => "TaggedTemplateExpression"
  | .thisExpression => "ThisExpression"
  | .super => "Super"
  | .arrayExpression => "ArrayExpression"
  | .elision => "Elision"
  | .objectExpression => "ObjectExpression"
  | .objectProperty _ => "ObjectProperty"
  | .spreadElement => "SpreadElement"
  | .staticMember => "StaticMemberExpression"
  | .computedMember => "ComputedMemberExpression"
  | .privateMember => "PrivateFieldExpression"
  | .callExpression => "CallExpression"
  | .newExpression => "NewExpression"
  | .importExpression => "ImportExpression"
  | .metaProperty => "MetaProperty"
  | .chainExpression => "ChainExpression"
  | .parenthesizedExpression => "ParenthesizedExpression"
  | .unaryExpression _ => "UnaryExpression"
  | .updateExpression => "UpdateExpression"
  | .binaryExpression => "BinaryExpression"
  | .privateInExpression => "PrivateInExpression"
  | .logicalExpression _ => "LogicalExpression"
  | .conditionalExpression => "ConditionalExpression"
  | .assignmentExpression _ => "AssignmentExpression"
  | .sequenceExpression => "SequenceExpression"
  | .awaitExpression => "AwaitExpression"
  | .yieldExpression => "YieldExpression"
  | .arrowFunction _ _ => "ArrowFunctionExpression"
  | .asExpression => "TSAsExpression"
  | .satisfiesExpression => "TSSatisfiesExpression"
  | .typeAssertion => "TSTypeAssertion"
  | .nonNullExpression => "TSNonNullExpression"
  | .instantiationExpression => "TSInstantiationExpression"
  | .arrayTarget => "ArrayAssignmentTarget"
  | .objectTarget => "ObjectAssignmentTarget"
  | .targetRest => "AssignmentTargetRest"
  | .targetWithDefault => "AssignmentTargetWithDefault"
  | .targetShorthand => "AssignmentTargetPropertyIdentifier"
  | .targetProperty => "AssignmentTargetPropertyProperty"
  | .blockStatement => "BlockStatement"
  | .emptyStatement => "EmptyStatement"
  | .expressionStatement => "ExpressionStatement"
  | .ifStatement => "IfStatement"
  | .doWhileStatement => "DoWhileStatement"
  | .whileStatement => "WhileStatement"
  | .forStatement => "ForStatement"
  | .forInStatement => "ForInStatement"
  | .forOfStatement => "ForOfStatement"
  | .continueStatement => "ContinueStatement"
  | .breakStatement => "BreakStatement"
  | .returnStatement => "ReturnStatement"
  | .withStatement => "WithStatement"
  | .switchStatement => "SwitchStatement"
  | .switchCase => "SwitchCase"
  | .labeledStatement => "LabeledStatement"
  | .throwStatement => "ThrowStatement"
  | .tryStatement => "TryStatement"
  | .catchClause => "CatchClause"
  | .catchParameter => "CatchParameter"
  | .debuggerStatement => "DebuggerStatement"
  | .variableDeclaration _ => "VariableDeclaration"
  | .variableDeclarator => "VariableDeclarator"
  | .assignmentPattern => "AssignmentPattern"
  | .objectPattern => "ObjectPattern"
  | .bindingProperty => "BindingProperty"
  | .arrayPattern => "ArrayPattern"
  | .bindingRest => "BindingRestElement"
  | .function _ => "Function"
  | .formalParameters => "FormalParameters"
  | .formalParameter _ _ => "FormalParameter"
  | .formalParameterRest => "FormalParameterRest"
  | .thisParameter => "TSThisParameter"
  | .functionBody => "FunctionBody"
  | .classDefinition => "Class"
  | .classBody => "ClassBody"
  | .methodDefinition _ => "MethodDefinition"
  | .propertyDefinition _ _ => "PropertyDefinition"
  | .accessorProperty => "AccessorProperty"
  | .staticBlock => "StaticBlock"
  | .decorator => "Decorator"
  | .importDeclaration => "ImportDeclaration"
  | .importSpecifier => "ImportSpecifier"
  | .importDefaultSpecifier => "ImportDefaultSpecifier"
  | .importNamespaceSpecifier => "ImportNamespaceSpecifier"
  | .withClause => "WithClause"
  | .importAttribute => "ImportAttribute"
  | .exportNamedDeclaration => "ExportNamedDeclaration"
  | .exportDefaultDeclaration => "ExportDefaultDeclaration"
  | .exportAllDeclaration => "ExportAllDeclaration"
  | .exportSpecifier => "ExportSpecifier"
  | .importEqualsDeclaration => "TSImportEqualsDeclaration"
  | .externalModuleReference => "TSExternalModuleReference"
  | .exportAssignment => "TSExportAssignment"
  | .namespaceExportDeclaration => "TSNamespaceExportDeclaration"
  | .jsxElement => "JSXElement"
  | .jsxOpeningElement => "JSXOpeningElement"
  | .jsxClosingElement => "JSXClosingElement"
  | .jsxFragment => "JSXFragment"
  | .jsxOpeningFragment => "JSXOpeningFragment"
  | .jsxClosingFragment => "JSXClosingFragment"
  | .jsxIdentifier _ => "JSXIdentifier"
  | .jsxNamespacedName => "JSXNamespacedName"
  | .jsxMemberExpression => "JSXMemberExpression"
  | .jsxAttribute => "JSXAttribute"
  | .jsxSpreadAttribute => "JSXSpreadAttribute"
  | .jsxExpressionContainer => "JSXExpressionContainer"
  | .jsxEmptyExpression => "JSXEmptyExpression"
  | .jsxSpreadChild => "JSXSpreadChild"
  | .jsxText => "JSXText"
  | .typeAscription => "TSTypeAnnotation"
  | .keywordType k => k.kindName
  | .thisType => "TSThisType"
  | .literalType => "TSLiteralType"
  | .templateType => "TSTemplateLiteralType"
  | .typeReference => "TSTypeReference"
  | .qualifiedName => "TSQualifiedName"
  | .typeArguments => "TSTypeParameterInstantiation"
  | .typeParameters => "TSTypeParameterDeclaration"
  | .typeParameter => "TSTypeParameter"
  | .conditionalType => "TSConditionalType"
  | .unionType => "TSUnionType"
  | .intersectionType => "TSIntersectionType"
  | .parenthesizedType => "TSParenthesizedType"
  | .typeOperator _ => "TSTypeOperator"
  | .arrayType => "TSArrayType"
  | .indexedAccessType => "TSIndexedAccessType"
  | .tupleType => "TSTupleType"
  | .namedTupleMember => "TSNamedTupleMember"
  | .optionalType => "TSOptionalType"
  | .restType => "TSRestType"
  | .typeLiteral => "TSTypeLiteral"
  | .propertySignature _ => "TSPropertySignature"
  | .methodSignature => "TSMethodSignature"
  | .indexSignature _ _ => "TSIndexSignature"
  | .indexSignatureName => "TSIndexSignatureName"
  | .callSignature => "TSCallSignatureDeclaration"
  | .constructSignature => "TSConstructSignatureDeclaration"
  | .functionType => "TSFunctionType"
  | .constructorType => "TSConstructorType"
  | .mappedType => "TSMappedType"
  | .inferType => "TSInferType"
  | .typeQuery => "TSTypeQuery"
  | .importType => "TSImportType"
  | .importTypeQualifiedName => "TSImportTypeQualifiedName"
  | .typePredicate => "TSTypePredicate"
  | .nullableType => "JSDocNullableType"
  | .nonNullableType => "JSDocNonNullableType"
  | .unknownType => "JSDocUnknownType"
  | .interfaceDeclaration => "TSInterfaceDeclaration"
  | .interfaceBody => "TSInterfaceBody"
  | .interfaceHeritage => "TSInterfaceHeritage"
  | .classImplements => "TSClassImplements"
  | .typeAliasDeclaration => "TSTypeAliasDeclaration"
  | .enumDeclaration => "TSEnumDeclaration"
  | .enumBody => "TSEnumBody"
  | .enumMember => "TSEnumMember"
  | .moduleDeclaration => "TSModuleDeclaration"
  | .globalDeclaration => "TSGlobalDeclaration"
  | .moduleBlock => "TSModuleBlock"

end PureLint
